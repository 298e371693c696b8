import Mathlib.Data.List.Induction
import TokenLedger.Curve.Ed25519
import TokenLedger.Proofs.Notary.Consistency
import TokenLedger.Proposal.Draft
/-!
Finalization is for good, and it is earned.

* `Step.settlement`: a finalized record appears only in the step of the call that brought its
  transaction, in time, and it keeps that call's observers.
* `exists_settlement`: so every finalized record of a run goes back to one call of that run.
* `notarise_of_finalized?`: a transaction that is finalized is answered from memory, whatever the
  time, and nothing changes.

`finalized_forever` says what never changes after an answer `finalized`, and
`run_fresh_finalized_justified` what every finalized record and every such answer is justified by.
-/

namespace TokenLedger.Notary

section Scheme

variable [SignatureScheme]

section Steps

variable {notary next : Notary} {submission : Submission} {id : TransactionId}

/-- **A new finalized record is that of the call.** It lies under the id of the transaction that was
brought, which was in time and met no conflict, and the call is answered by its finalization. -/
theorem Step.settlement {result : Except NotaryError Outcome} {record : NotaryRecord}
    (taken : Step notary submission result next) (unseen : notary.finalized.get? id = none)
    (found : next.finalized.get? id = some record) :
    submission.signed.id = id ∧ result = .ok (.finalized id) ∧
      record = ⟨.finalized id, submission.signed, submission.observers⟩ ∧
      submission.signed.proposal.timeWindow.check submission.now = .ok () ∧
      notary.consumed.conflicts submission.signed.proposal.inputRefs submission.signed.id = [] := by
  cases taken with
  | misaddressed | unacceptable | replayed =>
    rw [unseen] at found
    cases found
  | refused =>
    rw [finalized_remember_of_not_isFinalized rfl, unseen] at found
    cases found
  | settled _ _ timely free =>
    rcases eq_of_get?_finalized_remember found with before | ⟨same, rfl⟩
    · change notary.finalized.get? id = some record at before
      rw [unseen] at before
      cases before
    · change submission.signed.id = id at same
      refine ⟨same, ?_, ?_, timely, free⟩
      · rw [same]
      · rw [same]

/-- A transaction that is finalized is answered from memory, and nothing changes. -/
theorem notarise_of_finalized? {signed : SignedTransaction} {record : NotaryRecord}
    (admissible : Admissible notary.identity signed)
    (found : notary.finalized? signed.id = some record) (now : Instant) (observers : List Party) :
    notary.notarise now signed observers = (.ok record.outcome, notary) := by
  have taken : Step notary ⟨now, signed, observers⟩ (.ok record.outcome) notary :=
    .replayed admissible found
  exact taken.notarise_eq

/-- **What an answer `finalized` says**: it carries the id of the transaction that was brought, the
transaction is admissible, and it has a finalized record from then on. -/
theorem Consistent.answer_finalized (consistent : Consistent notary)
    (taken : Step notary submission (.ok (.finalized id)) next) :
    id = submission.signed.id ∧ Admissible notary.identity submission.signed ∧
      ∃ record, next.finalized.get? id = some record := by
  generalize answered : Except.ok (Outcome.finalized id) = result at taken
  cases taken with
  | misaddressed | unacceptable | refused => cases answered
  | replayed admissible found =>
    rename_i record
    rw [consistent.finalized?_eq] at found
    have same : Outcome.finalized id = .finalized submission.signed.id :=
      (Except.ok.inj answered).trans (consistent.justified found).outcome_eq
    cases same
    exact ⟨rfl, admissible, record, found⟩
  | settled admissible unseen =>
    cases answered
    rw [consistent.finalize_eq unseen]
    exact ⟨rfl, admissible, _, SortedMap.get?_insert_self _ _ _⟩

/-- An answer `finalized` leaves a finalized record behind. -/
theorem Consistent.get?_of_mem_answers {notary : Notary} (consistent : Consistent notary)
    {id : TransactionId} {submissions : List Submission}
    (given : .ok (.finalized id) ∈ notary.answers submissions) :
    ∃ record, (notary.run submissions).finalized.get? id = some record := by
  induction submissions generalizing notary with
  | nil => cases given
  | cons submission rest ih =>
    have taken := notary.step submission
    rcases List.mem_cons.mp given with first | later
    · rw [← first] at taken
      obtain ⟨-, -, record, found⟩ := consistent.answer_finalized taken
      exact ⟨record, get?_finalized_run found rest⟩
    · exact ih (consistent.step taken) later

end Steps

/-- **A transaction that was answered `finalized` is answered so again**, after every further run,
at every time and for every observers, and the notary stays as it is. -/
theorem Consistent.notarise_again {notary : Notary} (consistent : Consistent notary)
    {submission : Submission} {id : TransactionId}
    (answered : notary.answer submission = .ok (.finalized id)) (continuation : List Submission)
    (now : Instant) (observers : List Party) :
    ((notary.after submission).run continuation).notarise now submission.signed observers =
      (.ok (.finalized id), (notary.after submission).run continuation) := by
  have taken := notary.step submission
  rw [answered] at taken
  obtain ⟨rfl, admissible, record, found⟩ := consistent.answer_finalized taken
  have kept := get?_finalized_run found continuation
  have later : Consistent ((notary.after submission).run continuation) :=
    consistent.run (submission :: continuation)
  have name : ((notary.after submission).run continuation).identity = notary.identity :=
    identity_run notary (submission :: continuation)
  rw [← name] at admissible
  rw [← (later.justified kept).outcome_eq]
  exact notarise_of_finalized? admissible ((later.finalized?_eq _).trans kept) now observers

/-! ### The call behind a record -/

/-- A call of a run that finalized a transaction which was not finalized before. -/
structure Settlement (identity : Party) (id : TransactionId) (record : NotaryRecord)
    (before : List Submission) (call : Submission) : Prop where
  unseen : ((fresh identity).run before).finalized.get? id = none
  answered : ((fresh identity).run before).answer call = .ok (.finalized id)
  get?_after : ((fresh identity).run (before ++ [call])).finalized.get? id = some record
  record_eq : record = ⟨.finalized id, call.signed, call.observers⟩
  timely : call.signed.proposal.timeWindow.check call.now = .ok ()

namespace Settlement

variable {identity : Party} {id : TransactionId} {record : NotaryRecord}
  {before : List Submission} {call : Submission}

theorem signed_eq (settlement : Settlement identity id record before call) :
    call.signed = record.transaction := by
  rw [settlement.record_eq]

/-- The call came in the window of its transaction. -/
theorem window (settlement : Settlement identity id record before call) :
    call.signed.proposal.timeWindow.start ≤ call.now ∧
      call.now < call.signed.proposal.timeWindow.stop := by
  have inside := (TimeWindow.check_eq_ok_iff _ _).mp settlement.timely
  simpa [TimeWindow.contains] using inside

/-- No call before was answered by this finalization. -/
theorem not_mem_answers (settlement : Settlement identity id record before call) :
    .ok (.finalized id) ∉ (fresh identity).answers before := by
  intro given
  obtain ⟨sooner, found⟩ := (consistent_fresh identity).get?_of_mem_answers given
  rw [settlement.unseen] at found
  cases found

end Settlement

/-- **Every finalized record of a run goes back to one of its calls.** -/
theorem exists_settlement {identity : Party} {id : TransactionId} {record : NotaryRecord}
    {submissions : List Submission}
    (found : ((fresh identity).run submissions).finalized.get? id = some record) :
    ∃ before call later, submissions = before ++ call :: later ∧
      Settlement identity id record before call := by
  induction submissions using List.reverseRecOn with
  | nil => cases found
  | append_singleton earlier last ih =>
    cases sooner : ((fresh identity).run earlier).finalized.get? id with
    | some known =>
      have same : known = record := by
        have kept := get?_finalized_run sooner [last]
        rw [← run_append, found] at kept
        exact (Option.some.inj kept).symm
      obtain ⟨before, call, later, split, settlement⟩ := ih (same ▸ sooner)
      exact ⟨before, call, later ++ [last], by rw [split]; simp, settlement⟩
    | none =>
      obtain ⟨-, answered, record_eq, timely, -⟩ :=
        (((fresh identity).run earlier).step last).settlement sooner
          ((run_concat _ _ _).symm ▸ found)
      exact ⟨earlier, last, [], rfl, sooner, answered, found, record_eq, timely⟩

/-! ### Justification -/

/-- **Every finalized record is justified, over every run of a notary.** It lies under its own id
with the verdict that finalized it; its transaction is addressed to the notary, acceptable, and
signed over its id by every required signatory with its own key; and it was brought into being by a
call of the run that came when the transaction's window had begun and was not over. Every answer
`finalized` carries the id of the transaction that was brought, which is addressed to the notary and
verifies, and has a finalized record from then on. -/
theorem run_fresh_finalized_justified (identity : Party) (submissions : List Submission) :
    let notary := (fresh identity).run submissions
    (∀ id record, notary.finalized.get? id = some record →
      id = record.transaction.id ∧ record.outcome = .finalized id ∧
      record.transaction.proposal.notary = identity ∧
      record.transaction.proposal.validate = .ok () ∧ record.transaction.verify = .ok () ∧
      (∀ party, record.transaction.requires party → ∃ signature,
        record.transaction.signatures.get? party = some signature ∧
          signature.signer = party.key ∧ signature.verifies party id = true) ∧
      ∃ before call later, submissions = before ++ call :: later ∧
        ((fresh identity).run before).finalized.get? id = none ∧
        ((fresh identity).run (before ++ [call])).finalized.get? id = some record ∧
        call.signed = record.transaction ∧
        call.signed.proposal.timeWindow.start ≤ call.now ∧
        call.now < call.signed.proposal.timeWindow.stop) ∧
    (∀ submission id, notary.answer submission = .ok (.finalized id) →
      id = submission.signed.id ∧ submission.signed.proposal.notary = identity ∧
      submission.signed.verify = .ok () ∧
      ∃ record, (notary.after submission).finalized? id = some record) := by
  intro notary
  have consistent : Consistent notary := consistent_run identity submissions
  have name : notary.identity = identity := identity_run _ _
  refine ⟨fun id record found => ?_, fun submission id answered => ?_⟩
  · obtain ⟨outcome_eq, id_eq, admissible⟩ := consistent.justified found
    obtain ⟨before, call, later, split, settlement⟩ := exists_settlement found
    refine ⟨id_eq.symm, outcome_eq, admissible.addressed.trans name, admissible.acceptable,
      admissible.verified, fun party required => ?_, before, call, later, split,
      settlement.unseen, settlement.get?_after, settlement.signed_eq, settlement.window⟩
    rw [← id_eq]
    exact SignedTransaction.exists_signature_of_verify admissible.verified required
  · have taken := notary.step submission
    rw [answered] at taken
    obtain ⟨id_eq, admissible, record, found⟩ := consistent.answer_finalized taken
    refine ⟨id_eq, admissible.addressed.trans name, admissible.verified, record, ?_⟩
    rw [(consistent.step taken).finalized?_eq]
    exact found

/-! ### Permanence -/

/-- **Finalized is for good, and a retry changes nothing.** Once a notary has answered `finalized`,
one call of its run was the first to be answered so, and after every further run, in whatever order
and at whatever times, the verdict is the same, the record is that of the first call with the
observers of that call, the inputs of its transaction are consumed by it, and the transaction that
was answered is answered `finalized` again at every time and for every observers, which leaves the
notary as it is. -/
theorem finalized_forever {identity : Party} {history : List Submission} {submission : Submission}
    {id : TransactionId}
    (answered : ((fresh identity).run history).answer submission = .ok (.finalized id)) :
    ∃ before first later, history ++ [submission] = before ++ first :: later ∧
      .ok (.finalized id) ∉ (fresh identity).answers before ∧
      ((fresh identity).run before).answer first = .ok (.finalized id) ∧
      ∀ continuation,
        let notary := (fresh identity).run (history ++ submission :: continuation)
        notary.outcome? id = some (.finalized id) ∧
        notary.finalized? id = some ⟨.finalized id, first.signed, first.observers⟩ ∧
        (∀ state ∈ first.signed.proposal.inputRefs, notary.consumer? state = some id) ∧
        ∀ now observers,
          notary.notarise now submission.signed observers = (.ok (.finalized id), notary) := by
  have taken := ((fresh identity).run history).step submission
  rw [answered] at taken
  obtain ⟨id_eq, admissible, record, found⟩ :=
    (consistent_run identity history).answer_finalized taken
  rw [← run_concat] at found
  obtain ⟨before, first, later, split, settlement⟩ := exists_settlement found
  refine ⟨before, first, later, split, settlement.not_mem_answers, settlement.answered,
    fun continuation => ?_⟩
  intro notary
  have consistent : Consistent notary := consistent_run identity _
  have kept : notary.finalized.get? id = some ⟨.finalized id, first.signed, first.observers⟩ := by
    have cut : history ++ submission :: continuation = (history ++ [submission]) ++ continuation :=
      (List.append_cons _ _ _)
    show ((fresh identity).run (history ++ submission :: continuation)).finalized.get? id = _
    rw [cut, run_append, ← settlement.record_eq]
    exact get?_finalized_run found continuation
  have known := (consistent.finalized?_eq id).trans kept
  have resumed : notary = (((fresh identity).run history).after submission).run continuation :=
    run_append _ _ _
  refine ⟨outcome?_of_finalized? known, known, fun state spent => ?_, fun now observers => ?_⟩
  · exact consistent.consumer?_eq_some_iff.mpr ⟨_, kept, spent⟩
  · rw [resumed]
    exact (consistent_run identity history).notarise_again answered continuation now observers

end Scheme

/-! A mint that is finalized in its window, and comes again after it. -/

namespace GoldMint

def notary : Party := ⟨⟨"CN=Notary"⟩, ⟨.replicate 1⟩⟩

/-- A party that signs with the seed of thirty-two bytes `2`. -/
def issuer : Party where
  name := ⟨"CN=Issuer"⟩
  key := ⟨.ofNat 67259958330796819658545744304448928228398967215798982503306394995553774025089⟩

def second (number : Fin 60) : Instant :=
  { Instant.epoch with
    second := number.val
    firstSecond_le := by unfold firstSecond; omega
    le_lastSecond := by unfold lastSecond; omega }

def proposal : Proposal :=
  ((Draft.empty.addOutput ⟨"GOLD", 5, issuer, issuer, [issuer]⟩).addCommand
    (.ofList .create [issuer])).assemble notary ⟨second 20, second 40⟩

def signature : Signature where
  signer := issuer.key
  bytes :=
    littleEndian 32
        112813785551447556405138179398220694847332645154769219369021774640236185894729 ++
      littleEndian 32
        6647169559022536432657091083203844684010162559429762141012745270582870230674

def signed : SignedTransaction := (SignedTransaction.unsigned proposal).attach issuer signature

def inTime : Submission := ⟨second 30, signed, [issuer]⟩

def again : Submission := ⟨second 50, signed, []⟩

/-! Times before the window of the mint, at its bounds and in it. -/

def early : Instant := second 10

def opening : Instant := second 20

def during : Instant := second 30

def closing : Instant := second 40

theorem acceptable : proposal.validate = .ok () :=
  Draft.validate_assemble (by decide) (by decide) rfl rfl (by decide)

theorem id_eq : proposal.id =
    ⟨.ofNat 68690517063671739272013339471714119726743295952263170064856435404279034604317⟩ := by
  decide +kernel

theorem verified : signed.verify = .ok () := by
  refine SignedTransaction.verify_eq_ok_iff.mpr fun party required => ?_
  have same : party = issuer := by
    have inside : party ∈ ([issuer] : List Party) := required
    exact List.mem_singleton.mp inside
  rw [same]
  refine SignedTransaction.isSignedBy_iff.mpr
    ⟨Draft.contentId_assemble _ _ _, signature, SortedMap.get?_insert_self _ _ _, ?_⟩
  rw [show signed.id = _ from id_eq]
  decide +kernel

theorem admissible : Admissible notary signed := ⟨rfl, acceptable, verified⟩

theorem answer_inTime : (fresh notary).answer inTime = .ok (.finalized inTime.signed.id) := by
  have timely : inTime.signed.proposal.timeWindow.check inTime.now = .ok () := rfl
  exact (Step.settled admissible rfl timely rfl).answer_eq

theorem answer_again :
    ((fresh notary).run [inTime]).answer again = .ok (.finalized inTime.signed.id) := by
  have replayed := (consistent_fresh notary).notarise_again answer_inTime [] again.now []
  rw [run_cons, answer]
  exact congrArg Prod.fst replayed

end GoldMint

open GoldMint in
theorem finalized_forever_mint :
    ((fresh notary).run [inTime]).answer again = .ok (.finalized inTime.signed.id) ∧
    ∃ before first later, [inTime, again] = before ++ first :: later ∧
      .ok (.finalized inTime.signed.id) ∉ (fresh notary).answers before ∧
      ((fresh notary).run before).answer first = .ok (.finalized inTime.signed.id) ∧
      ∀ continuation,
        let afterwards := (fresh notary).run (inTime :: again :: continuation)
        afterwards.outcome? inTime.signed.id = some (.finalized inTime.signed.id) ∧
        afterwards.finalized? inTime.signed.id =
          some ⟨.finalized inTime.signed.id, first.signed, first.observers⟩ ∧
        (∀ state ∈ first.signed.proposal.inputRefs,
          afterwards.consumer? state = some inTime.signed.id) ∧
        ∀ now observers, afterwards.notarise now again.signed observers =
          (.ok (.finalized inTime.signed.id), afterwards) :=
  ⟨answer_again, finalized_forever answer_again⟩

end TokenLedger.Notary
