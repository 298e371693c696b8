import TokenLedger.Proofs.Notary.Finality
import TokenLedger.Proofs.Notary.Verdicts
/-!
Submitting a transaction again.

Between two submissions of a transaction the notary may rule on any others. The answer can change
all the same in a few ways only, as long as the clock does not go back (`Resubmission`) and no other
proposal comes under the transaction's id (`SoleProposal`):

* `not_finalized_run`: a transaction that has lost an input, or whose window is missed by every
  call, is not finalized;
* `answer_early`, `answer_late`, `answer_conflicting`, `answer_not_verified`: so a transaction is
  refused for its signatures or for a window that is over as before; before the window as long as
  that has not begun; and for a double spend until the window is over, with the same conflicts and
  possibly more;
* `answer_follows`: the later verdict follows the earlier one.

`rejection_hardens` says how far a rejection is final. One before the window is not: what came too
early is finalized when it comes again in time (`refused_early_then_finalized`).
-/

namespace TokenLedger.Notary

/-! ### Clocks that do not go back -/

/-- The times of the submissions do not go back. -/
def Forward (submissions : List Submission) : Prop :=
  submissions.Pairwise fun earlier later => earlier.now ≤ later.now

/-- Of the submissions, those with the id of a transaction carry its proposal. -/
def SoleProposal (signed : SignedTransaction) (submissions : List Submission) : Prop :=
  ∀ call ∈ submissions, call.signed.id = signed.id → call.signed.proposal = signed.proposal

/-- A transaction is submitted, and later again while the clock did not go back. -/
structure Resubmission (first : Submission) (between : List Submission) (again : Submission) :
    Prop where
  same : again.signed = first.signed
  forward : Forward (first :: between ++ [again])

namespace Resubmission

variable {first again call : Submission} {between : List Submission}

theorem first_le (resubmission : Resubmission first between again)
    (found : call ∈ first :: between) : first.now ≤ call.now := by
  rcases List.mem_cons.mp found with rfl | later
  · exact Instant.le_refl _
  · exact (List.pairwise_cons.mp resubmission.forward).1 call (List.mem_append_left _ later)

theorem le_again (resubmission : Resubmission first between again)
    (found : call ∈ first :: between) : call.now ≤ again.now :=
  (List.pairwise_append.mp resubmission.forward).2.2 call found again List.mem_cons_self

end Resubmission

section Scheme

variable [SignatureScheme]

/-! ### Transactions that cannot succeed -/

/-- Conflicts stay through a run, in their order. -/
theorem conflicts_sublist_run (notary : Notary) (submissions : List Submission)
    (inputs : List StateRef) (id : TransactionId) :
    (notary.consumed.conflicts inputs id).Sublist
      ((notary.run submissions).consumed.conflicts inputs id) :=
  ConsumedStates.conflicts_sublist inputs id fun held => consumer?_run held submissions

/-- **A transaction that cannot succeed is not finalized**: it has lost an input, or no call of the
run is in its window. Other transactions with its id could only do so with its proposal. -/
theorem not_finalized_run {notary : Notary} {signed : SignedTransaction}
    {submissions : List Submission} (unseen : notary.finalized.get? signed.id = none)
    (sole : SoleProposal signed submissions)
    (barred : notary.consumed.conflicts signed.proposal.inputRefs signed.id ≠ [] ∨
      ∀ call ∈ submissions, signed.proposal.timeWindow.check call.now ≠ .ok ()) :
    (notary.run submissions).finalized.get? signed.id = none := by
  -- by induction on the run; what bars the transaction at one call bars it at the rest
  induction submissions generalizing notary with
  | nil => exact unseen
  | cons call rest ih =>
    have still : (notary.after call).finalized.get? signed.id = none := by
      refine Option.eq_none_iff_forall_ne_some.mpr fun record found => ?_
      obtain ⟨id_eq, -, -, timely, free⟩ := (notary.step call).settlement unseen found
      rw [sole call List.mem_cons_self id_eq] at timely free
      rw [id_eq] at free
      rcases barred with conflicting | untimely
      · exact conflicting free
      · exact untimely call List.mem_cons_self timely
    refine ih still (fun other found => sole other (List.mem_cons_of_mem _ found)) ?_
    refine barred.imp (fun conflicting none_left => conflicting ?_)
      fun untimely other found => untimely other (List.mem_cons_of_mem _ found)
    have kept := conflicts_sublist_run notary [call] signed.proposal.inputRefs signed.id
    rw [run_cons, run_nil, none_left] at kept
    exact List.sublist_nil.mp kept

/-! ### Answers -/

section Answers

variable {notary : Notary} {submission : Submission} {reason : RejectionReason}

theorem answer_of_unacceptable {cause : ProposalError}
    (addressed : submission.signed.proposal.notary = notary.identity)
    (invalid : submission.signed.proposal.validate = .error cause) :
    notary.answer submission = .error (.proposal cause) :=
  (Step.unacceptable addressed invalid).answer_eq

theorem answer_of_not_verified (addressed : submission.signed.proposal.notary = notary.identity)
    (acceptable : submission.signed.proposal.validate = .ok ())
    (failed : submission.signed.verify = .error reason) :
    notary.answer submission = .ok (.rejected reason) :=
  (Step.refused addressed acceptable (.unsigned failed)).answer_eq

theorem answer_of_untimely (admissible : Admissible notary.identity submission.signed)
    (unseen : notary.finalized? submission.signed.id = none)
    (failed : submission.signed.proposal.timeWindow.check submission.now = .error reason) :
    notary.answer submission = .ok (.rejected reason) :=
  (Step.refused admissible.addressed admissible.acceptable
    (.untimely admissible.verified unseen failed)).answer_eq

theorem answer_of_conflicts (admissible : Admissible notary.identity submission.signed)
    (unseen : notary.finalized? submission.signed.id = none)
    (timely : submission.signed.proposal.timeWindow.check submission.now = .ok ())
    (taken : notary.consumed.conflicts submission.signed.proposal.inputRefs
      submission.signed.id ≠ []) :
    notary.answer submission = .ok (.rejected (.doubleSpend
      (notary.consumed.conflicts submission.signed.proposal.inputRefs submission.signed.id))) :=
  (Step.refused admissible.addressed admissible.acceptable
    (.conflicting admissible.verified unseen timely taken)).answer_eq

/-- Only before its window is a transaction too early. -/
theorem early_of_answer (refused : notary.answer submission = .ok (.rejected .windowNotYetValid)) :
    submission.now < submission.signed.proposal.timeWindow.start := by
  have taken := notary.step submission
  rw [refused] at taken
  obtain ⟨-, -, refusal, -⟩ := taken.of_rejected
  cases refusal with
  | unsigned failed =>
    obtain ⟨party, -, missing | invalid⟩ := SignedTransaction.verify_eq_error failed
    · cases missing
    · cases invalid
  | untimely _ _ failed => exact TimeWindow.check_eq_notYetValid_iff.mp failed

end Answers

section Again

variable {notary : Notary} {first again : Submission} {between : List Submission}

theorem Resubmission.admissible (resubmission : Resubmission first between again)
    (admissible : Admissible notary.identity first.signed) :
    Admissible ((notary.after first).run between).identity again.signed := by
  rw [resubmission.same, ← run_cons, identity_run]
  exact admissible

/-- A transaction that was not finalized when it was first submitted, and cannot have succeeded
since, is not finalized when it is submitted again. -/
theorem Resubmission.unseen (resubmission : Resubmission first between again)
    (consistent : Consistent notary) (new : notary.finalized? first.signed.id = none)
    (sole : SoleProposal first.signed between)
    (barred : notary.consumed.conflicts first.signed.proposal.inputRefs first.signed.id ≠ [] ∨
      ∀ call ∈ first :: between, first.signed.proposal.timeWindow.check call.now ≠ .ok ()) :
    ((notary.after first).run between).finalized? again.signed.id = none := by
  have sole_first : SoleProposal first.signed (first :: between) := by
    intro call found same_id
    rcases List.mem_cons.mp found with rfl | later
    · rfl
    · exact sole call later same_id
  rw [consistent.finalized?_eq] at new
  rw [resubmission.same, ← run_cons, (consistent.run _).finalized?_eq]
  exact not_finalized_run new sole_first barred

/-- **Before its window a transaction is refused as before.** -/
theorem Resubmission.answer_early (resubmission : Resubmission first between again)
    (consistent : Consistent notary) (admissible : Admissible notary.identity first.signed)
    (new : notary.finalized? first.signed.id = none) (sole : SoleProposal first.signed between)
    (early : again.now < first.signed.proposal.timeWindow.start) :
    ((notary.after first).run between).answer again = .ok (.rejected .windowNotYetValid) := by
  refine answer_of_untimely (resubmission.admissible admissible) ?_ ?_
  · refine resubmission.unseen consistent new sole (Or.inr fun call found => ?_)
    have sooner := Instant.lt_of_le_of_lt (resubmission.le_again found) early
    rw [TimeWindow.check_eq_notYetValid_iff.mpr sooner]
    exact nofun
  · rw [resubmission.same]
    exact TimeWindow.check_eq_notYetValid_iff.mpr early

/-- **After its window a transaction is refused for good.** -/
theorem Resubmission.answer_late (resubmission : Resubmission first between again)
    (consistent : Consistent notary) (admissible : Admissible notary.identity first.signed)
    (new : notary.finalized? first.signed.id = none) (sole : SoleProposal first.signed between)
    (failed : first.signed.proposal.timeWindow.check first.now = .error .windowExpired) :
    ((notary.after first).run between).answer again = .ok (.rejected .windowExpired) := by
  obtain ⟨begun, late⟩ := TimeWindow.check_eq_expired_iff.mp failed
  -- the window was over when the transaction first came, and it is over from then on
  have expired : ∀ {now}, first.now ≤ now →
      first.signed.proposal.timeWindow.check now = .error .windowExpired := fun later =>
    TimeWindow.check_eq_expired_iff.mpr ⟨Instant.le_trans begun later, Instant.le_trans late later⟩
  refine answer_of_untimely (resubmission.admissible admissible) ?_ ?_
  · refine resubmission.unseen consistent new sole (Or.inr fun call found => ?_)
    rw [expired (resubmission.first_le found)]
    exact nofun
  · rw [resubmission.same]
    exact expired (resubmission.le_again List.mem_cons_self)

/-- **A double spend stays one until the window is over**, and loses none of its conflicts. -/
theorem Resubmission.answer_conflicting (resubmission : Resubmission first between again)
    (consistent : Consistent notary) (admissible : Admissible notary.identity first.signed)
    (new : notary.finalized? first.signed.id = none) (sole : SoleProposal first.signed between)
    (timely : first.signed.proposal.timeWindow.check first.now = .ok ())
    (taken : notary.consumed.conflicts first.signed.proposal.inputRefs first.signed.id ≠ []) :
    ∃ more, (notary.consumed.conflicts first.signed.proposal.inputRefs
        first.signed.id).Sublist more ∧
      ((notary.after first).run between).answer again =
        .ok (.rejected (if first.signed.proposal.timeWindow.stop ≤ again.now then .windowExpired
          else .doubleSpend more)) := by
  have welcome := resubmission.admissible admissible
  have unseen := resubmission.unseen consistent new sole (Or.inl taken)
  have kept : (notary.consumed.conflicts first.signed.proposal.inputRefs first.signed.id).Sublist
      (((notary.after first).run between).consumed.conflicts again.signed.proposal.inputRefs
        again.signed.id) := by
    rw [resubmission.same]
    exact conflicts_sublist_run notary (first :: between) _ _
  have begun : first.signed.proposal.timeWindow.start ≤ again.now :=
    Instant.le_trans (TimeWindow.contains_iff.mp ((TimeWindow.check_eq_ok_iff _ _).mp timely)).1
      (resubmission.le_again List.mem_cons_self)
  refine ⟨_, kept, ?_⟩
  split_ifs with late
  · refine answer_of_untimely welcome unseen ?_
    rw [resubmission.same]
    exact TimeWindow.check_eq_expired_iff.mpr ⟨begun, late⟩
  · refine answer_of_conflicts welcome unseen ?_ fun none_left => ?_
    · rw [resubmission.same]
      exact (TimeWindow.check_eq_ok_iff _ _).mpr
        (TimeWindow.contains_iff.mpr ⟨begun, Instant.not_le.mp late⟩)
    · rw [none_left] at kept
      exact taken (List.sublist_nil.mp kept)

/-- **Missing and invalid signatures are refused for good**, whatever the time. -/
theorem Resubmission.answer_not_verified {reason : RejectionReason}
    (resubmission : Resubmission first between again)
    (addressed : first.signed.proposal.notary = notary.identity)
    (acceptable : first.signed.proposal.validate = .ok ())
    (failed : first.signed.verify = .error reason) :
    ((notary.after first).run between).answer again = .ok (.rejected reason) := by
  rw [← resubmission.same] at addressed acceptable failed
  refine answer_of_not_verified ?_ acceptable failed
  rw [← run_cons, identity_run]
  exact addressed

/-- **A refusal hardens**, whatever was ruled on in between, unless it came before the window. -/
theorem Refusal.hardens {reason : RejectionReason} (refusal : Refusal notary first reason)
    (resubmission : Resubmission first between again) (consistent : Consistent notary)
    (addressed : first.signed.proposal.notary = notary.identity)
    (acceptable : first.signed.proposal.validate = .ok ())
    (sole : SoleProposal first.signed between) (decided : reason ≠ .windowNotYetValid) :
    ∃ later, ((notary.after first).run between).answer again = .ok (.rejected later) ∧
      Hardens reason later := by
  cases refusal with
  | unsigned failed =>
    exact ⟨reason, resubmission.answer_not_verified addressed acceptable failed, .same reason⟩
  | untimely verified unseen failed =>
    have admissible : Admissible notary.identity first.signed := ⟨addressed, acceptable, verified⟩
    rcases TimeWindow.check_eq_error failed with ⟨-, rfl⟩ | ⟨-, rfl⟩
    · exact absurd rfl decided
    · exact ⟨_, resubmission.answer_late consistent admissible unseen sole failed, .same _⟩
  | conflicting verified unseen timely taken =>
    have admissible : Admissible notary.identity first.signed := ⟨addressed, acceptable, verified⟩
    obtain ⟨more, kept, given⟩ :=
      resubmission.answer_conflicting consistent admissible unseen sole timely taken
    refine ⟨_, given, ?_⟩
    split_ifs
    · exact .expired _
    · exact .grown kept

/-! ### What may follow -/

/-- An admissible transaction is finalized, or refused for its window or its conflicts. -/
theorem Step.exists_timed {next : Notary} {submission : Submission}
    {result : Except NotaryError Outcome} (taken : Step notary submission result next)
    (consistent : Consistent notary) (admissible : Admissible notary.identity submission.signed) :
    ∃ outcome, result = .ok outcome ∧ Timed submission.signed.id outcome := by
  cases taken with
  | misaddressed elsewhere => exact absurd admissible.addressed elsewhere
  | unacceptable _ invalid =>
    rw [admissible.acceptable] at invalid
    cases invalid
  | refused _ _ refusal =>
    refine ⟨_, rfl, ?_⟩
    cases refusal with
    | unsigned failed =>
      rw [admissible.verified] at failed
      cases failed
    | untimely _ _ failed =>
      rcases TimeWindow.check_eq_error failed with ⟨-, rfl⟩ | ⟨-, rfl⟩
      · exact .notYetValid
      · exact .expired
    | conflicting => exact .doubleSpend _
  | replayed _ found =>
    rw [consistent.finalized?_eq] at found
    refine ⟨_, rfl, ?_⟩
    rw [(consistent.justified found).outcome_eq]
    exact .finalized
  | settled => exact ⟨_, rfl, .finalized⟩

/-- **A later verdict follows the earlier one**, whatever was ruled on in between. -/
theorem answer_follows {earlier : Outcome} (resubmission : Resubmission first between again)
    (consistent : Consistent notary) (admissible : Admissible notary.identity first.signed)
    (sole : SoleProposal first.signed between) (answered : notary.answer first = .ok earlier) :
    ∃ later, ((notary.after first).run between).answer again = .ok later ∧
      Follows earlier later := by
  cases earlier with
  | finalized id =>
    have replayed := consistent.notarise_again answered between again.now again.observers
    rw [← resubmission.same] at replayed
    exact ⟨_, congrArg Prod.fst replayed, .finalized id⟩
  | rejected reason =>
    by_cases early : reason = .windowNotYetValid
    · subst early
      obtain ⟨later, given, -⟩ := (((notary.after first).run between).step again).exists_timed
        (consistent.run (first :: between)) (resubmission.admissible admissible)
      exact ⟨later, given, .notYetValid later⟩
    · have taken := notary.step first
      rw [answered] at taken
      obtain ⟨-, -, refusal, -⟩ := taken.of_rejected
      obtain ⟨later, given, hardened⟩ := refusal.hardens resubmission consistent
        admissible.addressed admissible.acceptable sole early
      exact ⟨.rejected later, given, .refused hardened⟩
  | unreachable cause =>
    -- a notary never answers this
    obtain ⟨outcome, given, timed⟩ := (notary.step first).exists_timed consistent admissible
    rw [answered] at given
    cases given
    cases timed

end Again

/-! ### How far a rejection is final -/

/-- **How far a rejection is final**, after every further run on which the clock does not go back. A
missing or invalid signature is the answer again. If no other proposal comes under the transaction's
id, an expired window is the answer again, a window that has not begun is so exactly until it has,
and a double spend is the answer until the window is over, with the same conflicts and possibly
more. -/
theorem rejection_hardens {identity : Party} {history between : List Submission}
    {first again : Submission} {reason : RejectionReason}
    (answered : ((fresh identity).run history).answer first = .ok (.rejected reason))
    (resubmission : Resubmission first between again) :
    let notary := (fresh identity).run (history ++ first :: between)
    (∀ party, reason = .missingSignature party ∨ reason = .invalidSignature party →
      notary.answer again = .ok (.rejected reason)) ∧
    (SoleProposal first.signed between →
      (reason = .windowExpired → notary.answer again = .ok (.rejected .windowExpired)) ∧
      (reason = .windowNotYetValid → (notary.answer again = .ok (.rejected .windowNotYetValid) ↔
        again.now < first.signed.proposal.timeWindow.start)) ∧
      (∀ conflicts, reason = .doubleSpend conflicts → ∃ more, conflicts.Sublist more ∧
        notary.answer again = .ok (.rejected
          (if first.signed.proposal.timeWindow.stop ≤ again.now then .windowExpired
            else .doubleSpend more)))) := by
  intro notary
  have resumed : notary = (((fresh identity).run history).after first).run between :=
    run_append _ _ _
  have consistent := consistent_run identity history
  have taken := ((fresh identity).run history).step first
  rw [answered] at taken
  obtain ⟨addressed, acceptable, refusal, -⟩ := taken.of_rejected
  rw [resumed]
  cases refusal with
  | unsigned failed =>
    have same := resubmission.answer_not_verified addressed acceptable failed
    obtain ⟨party, -, rfl | rfl⟩ := SignedTransaction.verify_eq_error failed
    · exact ⟨fun _ _ => same, fun _ => ⟨nofun, nofun, nofun⟩⟩
    · exact ⟨fun _ _ => same, fun _ => ⟨nofun, nofun, nofun⟩⟩
  | untimely verified unseen failed =>
    have admissible := Admissible.mk addressed acceptable verified
    rcases TimeWindow.check_eq_error failed with ⟨-, rfl⟩ | ⟨-, rfl⟩
    · refine ⟨fun _ unsigned => unsigned.elim nofun nofun, fun sole => ⟨nofun, fun _ => ?_, nofun⟩⟩
      constructor
      · intro refused
        rw [← resubmission.same]
        exact early_of_answer refused
      · exact resubmission.answer_early consistent admissible unseen sole
    · exact ⟨fun _ unsigned => unsigned.elim nofun nofun, fun sole => ⟨fun _ =>
        resubmission.answer_late consistent admissible unseen sole failed, nofun, nofun⟩⟩
  | conflicting verified unseen timely some_taken =>
    have admissible := Admissible.mk addressed acceptable verified
    refine ⟨fun _ unsigned => unsigned.elim nofun nofun, fun sole => ⟨nofun, nofun, ?_⟩⟩
    intro conflicts same
    cases same
    exact resubmission.answer_conflicting consistent admissible unseen sole timely some_taken

end Scheme

/-! Two coins, each spent by one transaction and both together by a third. The third one comes when
one coin is gone, when both are, and after its window. -/

namespace Coins

open GoldMint (notary opening during closing)

def holder : Party := ⟨⟨"A"⟩, ⟨.replicate 2⟩⟩

def token : Token := ⟨"G", 1, holder, holder, [holder]⟩

def coin (index : UInt32) : Holding := ⟨token, notary, ⟨⟨.replicate 3⟩, index⟩⟩

/-- A proposal that consumes coins and that nobody has to sign. -/
def spending (coins : List Holding) : Proposal :=
  { (Draft.empty.addOutput token).addCommand (.ofList .move []) with
    inputs := coins }.assemble notary ⟨opening, closing⟩

def one : SignedTransaction := .unsigned (spending [coin 0])

def other : SignedTransaction := .unsigned (spending [coin 1])

def both : SignedTransaction := .unsigned (spending [coin 0, coin 1])

def oneSpent : Submission := ⟨opening, one, []⟩

def bothTried : Submission := ⟨opening, both, []⟩

def otherSpent : Submission := ⟨during, other, []⟩

def bothAgain : Submission := ⟨during, both, []⟩

def bothLate : Submission := ⟨closing, both, []⟩

theorem id_one : one.id =
    ⟨.ofNat 95158693494725716852560363300918865133200773569934776502754092036645274339549⟩ := by
  decide +kernel

theorem id_other : other.id =
    ⟨.ofNat 89963354143341136232259768491889972394402956609335579479444072002583024593778⟩ := by
  decide +kernel

theorem id_both : both.id =
    ⟨.ofNat 58350770785871060648474420744177433915357356561071105233074334229395147693555⟩ := by
  decide +kernel

theorem one_ne_both : one.id ≠ both.id := by
  rw [id_one, id_both]
  decide

theorem other_ne_both : other.id ≠ both.id := by
  rw [id_other, id_both]
  decide

theorem other_ne_one : other.id ≠ one.id := by
  rw [id_other, id_one]
  decide

theorem admissible_spending {coins : List Holding}
    (consumes : Proposal.checkInputs notary [] coins = .ok ()) :
    Admissible notary (.unsigned (spending coins)) where
  addressed := rfl
  acceptable := by
    have commands : SortedSet.empty.insert (Command.ofList .move []) ≠ .empty := by decide
    exact Draft.validate_assemble (List.cons_ne_nil _ _) commands consumes rfl (by decide)
  verified := by
    refine SignedTransaction.verify_eq_ok_iff.mpr fun party required => ?_
    have inside : party ∈ ([] : List Party) := required
    exact absurd inside List.not_mem_nil

/-! The answers to the submissions, and where the coins are. -/

theorem step_oneSpent : Step (fresh notary) oneSpent (.ok (.finalized one.id))
    ((fresh notary).finalize oneSpent) :=
  .settled (admissible_spending rfl) rfl rfl rfl

theorem consumer?_oneSpent (state : StateRef) :
    ((fresh notary).run [oneSpent]).consumer? state =
      if state = (coin 0).ref then some one.id else none := by
  rw [run_cons, run_nil, step_oneSpent.after_eq, consumer?_finalize]
  exact if_congr List.mem_singleton rfl rfl

theorem consumer?_first :
    ((fresh notary).run [oneSpent]).consumer? (coin 0).ref = some one.id :=
  (consumer?_oneSpent _).trans (if_pos rfl)

theorem consumer?_second : ((fresh notary).run [oneSpent]).consumer? (coin 1).ref = none :=
  (consumer?_oneSpent _).trans (if_neg (by decide))

theorem unseen_of_ne {id : TransactionId} (different : id ≠ one.id) :
    ((fresh notary).run [oneSpent]).finalized.get? id = none := by
  rw [run_cons, run_nil, step_oneSpent.after_eq, (consistent_fresh notary).finalize_eq rfl]
  exact SortedMap.get?_insert_of_ne different _ _

theorem conflicts_bothTried : ((fresh notary).run [oneSpent]).consumed.conflicts
    both.proposal.inputRefs both.id = [(coin 0).ref] := by
  have gone : ((fresh notary).run [oneSpent]).consumed.takenFrom both.id (coin 0).ref = true :=
    ConsumedStates.takenFrom_iff.mpr ⟨one.id, consumer?_first, one_ne_both⟩
  show List.filter _ [(coin 0).ref, (coin 1).ref] = _
  rw [List.filter_cons_of_pos gone, List.filter_cons_of_neg
    (ConsumedStates.not_takenFrom_of_none consumer?_second), List.filter_nil]

theorem answer_bothTried : ((fresh notary).run [oneSpent]).answer bothTried =
    .ok (.rejected (.doubleSpend [(coin 0).ref])) := by
  have admissible : Admissible ((fresh notary).run [oneSpent]).identity both := by
    rw [identity_run]
    exact admissible_spending rfl
  have unseen : ((fresh notary).run [oneSpent]).finalized? both.id = none := by
    rw [(consistent_run notary _).finalized?_eq]
    exact unseen_of_ne one_ne_both.symm
  have taken : ((fresh notary).run [oneSpent]).consumed.conflicts both.proposal.inputRefs both.id
      ≠ [] := by
    rw [conflicts_bothTried]
    exact List.cons_ne_nil _ _
  have refused : ((fresh notary).run [oneSpent]).answer bothTried =
      .ok (.rejected (.doubleSpend (((fresh notary).run [oneSpent]).consumed.conflicts
        both.proposal.inputRefs both.id))) :=
    answer_of_conflicts admissible unseen rfl taken
  rw [refused, conflicts_bothTried]

theorem step_bothTried : Step ((fresh notary).run [oneSpent]) bothTried
    (.ok (.rejected (.doubleSpend [(coin 0).ref]))) ((fresh notary).run [oneSpent, bothTried]) := by
  have resumed : (fresh notary).run [oneSpent, bothTried] =
      ((fresh notary).run [oneSpent]).after bothTried := run_concat _ [oneSpent] bothTried
  rw [← answer_bothTried, resumed]
  exact ((fresh notary).run [oneSpent]).step bothTried

theorem step_otherSpent : Step ((fresh notary).run [oneSpent, bothTried]) otherSpent
    (.ok (.finalized other.id))
    (((fresh notary).run [oneSpent, bothTried]).finalize otherSpent) := by
  have admissible : Admissible ((fresh notary).run [oneSpent, bothTried]).identity other := by
    rw [identity_run]
    exact admissible_spending rfl
  have unseen : ((fresh notary).run [oneSpent, bothTried]).finalized? other.id = none := by
    rw [(consistent_run notary _).finalized?_eq, step_bothTried.finalized_eq_of_rejected]
    exact unseen_of_ne other_ne_one
  have there : ((fresh notary).run [oneSpent, bothTried]).consumer? (coin 1).ref = none :=
    (step_bothTried.consumer?_eq_of_rejected _).trans consumer?_second
  have free : ((fresh notary).run [oneSpent, bothTried]).consumed.conflicts
      other.proposal.inputRefs other.id = [] :=
    List.filter_cons_of_neg (ConsumedStates.not_takenFrom_of_none there)
  exact .settled admissible unseen rfl free

theorem run_calls : (fresh notary).run [oneSpent, bothTried, otherSpent] =
    ((fresh notary).run [oneSpent, bothTried]).finalize otherSpent :=
  (run_concat _ [oneSpent, bothTried] otherSpent).trans step_otherSpent.after_eq

/-- Both coins are gone in the end. -/
theorem conflicts_bothAgain :
    ((fresh notary).run [oneSpent, bothTried, otherSpent]).consumed.conflicts
      both.proposal.inputRefs both.id = [(coin 0).ref, (coin 1).ref] := by
  have first_gone : ((fresh notary).run [oneSpent, bothTried, otherSpent]).consumer? (coin 0).ref =
      some one.id := by
    rw [run_calls, consumer?_finalize, if_neg (by decide),
      step_bothTried.consumer?_eq_of_rejected]
    exact consumer?_first
  have second_gone : ((fresh notary).run [oneSpent, bothTried, otherSpent]).consumer?
      (coin 1).ref = some other.id := by
    rw [run_calls, consumer?_finalize]
    exact if_pos (List.mem_singleton_self _)
  have first_taken := ConsumedStates.takenFrom_iff.mpr ⟨one.id, first_gone, one_ne_both⟩
  have second_taken := ConsumedStates.takenFrom_iff.mpr ⟨other.id, second_gone, other_ne_both⟩
  show List.filter _ [(coin 0).ref, (coin 1).ref] = _
  rw [List.filter_cons_of_pos first_taken, List.filter_cons_of_pos second_taken, List.filter_nil]

end Coins

open Coins GoldMint in
theorem rejection_hardens_coins :
    ((fresh notary).run [oneSpent]).answer bothTried =
      .ok (.rejected (.doubleSpend [(coin 0).ref])) ∧
    Resubmission bothTried [otherSpent] bothAgain ∧ Resubmission bothTried [otherSpent] bothLate ∧
    SoleProposal both [otherSpent] ∧
    ((fresh notary).run [oneSpent, bothTried]).answer otherSpent = .ok (.finalized other.id) ∧
    ((fresh notary).run [oneSpent, bothTried, otherSpent]).answer bothAgain =
      .ok (.rejected (.doubleSpend [(coin 0).ref, (coin 1).ref])) ∧
    ((fresh notary).run [oneSpent, bothTried, otherSpent]).answer bothLate =
      .ok (.rejected .windowExpired) := by
  have soon : Resubmission bothTried [otherSpent] bothAgain := ⟨rfl, by unfold Forward; decide⟩
  have late : Resubmission bothTried [otherSpent] bothLate := ⟨rfl, by unfold Forward; decide⟩
  have sole : SoleProposal both [otherSpent] := by
    intro call found same_id
    rw [List.mem_singleton.mp found] at same_id
    exact absurd same_id other_ne_both
  obtain ⟨-, -, again⟩ := (rejection_hardens answer_bothTried soon).2 sole
  obtain ⟨more, -, given⟩ := again _ rfl
  obtain ⟨-, -, at_last⟩ := (rejection_hardens answer_bothTried late).2 sole
  obtain ⟨_, -, expired⟩ := at_last _ rfl
  have grown : more = [(coin 0).ref, (coin 1).ref] := by
    have taken := ((fresh notary).run ([oneSpent] ++ [bothTried, otherSpent])).step bothAgain
    rw [given] at taken
    obtain ⟨-, -, refusal, -⟩ := taken.of_rejected
    exact refusal.conflicts_eq.1.trans conflicts_bothAgain
  rw [grown] at given
  exact ⟨answer_bothTried, soon, late, sole, step_otherSpent.answer_eq, given, expired⟩

/-! A mint that comes before its window, and again in it. -/

namespace GoldMint

def tooEarly : Submission := ⟨early, signed, []⟩

theorem answer_tooEarly : (fresh notary).answer tooEarly = .ok (.rejected .windowNotYetValid) :=
  answer_of_untimely admissible rfl rfl

theorem answer_inTime_later :
    ((fresh notary).run [tooEarly]).answer inTime = .ok (.finalized inTime.signed.id) := by
  have taken := (fresh notary).step tooEarly
  rw [answer_tooEarly] at taken
  have unseen : ((fresh notary).run [tooEarly]).finalized? inTime.signed.id = none := by
    rw [(consistent_run notary [tooEarly]).finalized?_eq, run_cons, run_nil,
      taken.finalized_eq_of_rejected]
    rfl
  refine (Step.settled ?_ unseen rfl rfl).answer_eq
  rw [identity_run]
  exact admissible

end GoldMint

open GoldMint in
/-- **A rejection is not final**: what came too early is finalized when it comes again in time. -/
theorem refused_early_then_finalized :
    (fresh notary).answer tooEarly = .ok (.rejected .windowNotYetValid) ∧
      Resubmission tooEarly [] inTime ∧
      ((fresh notary).run [tooEarly]).answer inTime = .ok (.finalized inTime.signed.id) :=
  ⟨answer_tooEarly, ⟨rfl, by unfold Forward; decide⟩, answer_inTime_later⟩

end TokenLedger.Notary
