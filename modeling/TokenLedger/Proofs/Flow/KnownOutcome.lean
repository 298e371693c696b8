import TokenLedger.Flow.LocalLink
import TokenLedger.Flow.Mint
import TokenLedger.Proofs.Notary.Finality
/-!
What the answer of the mint flow says about the ledger.

The flow submits a transaction over a link on which submissions fail and verdicts are held back, and
asks again until it gets a verdict. In between the clock moves, others submit, and the link gets
better or worse (`LocalLink.Reachable`, `LocalLink.sharedChannel`).

* `Notary.Consistent.borneOut_answer`: the verdict of a notary agrees with what it remembers of the
  transaction, but for one case: a rejection for a missing or invalid signature, which it also gives
  to signatures for a transaction that is finalized (`Notary.BorneOut`).
* `Finalizer.borneOut_finalize`: so does the outcome of one attempt, which is a verdict of the
  notary or none.

`MintFlow.finalize_borneOut` carries this over all attempts. The exception is real: the flow can
report a rejection, hence that the outcome is known, of a transaction that is on the ledger
(`MintFlow.rejected_but_finalized`).
-/

namespace TokenLedger

section Scheme

variable [SignatureScheme]

/-! ### Verdicts and what is remembered -/

namespace Notary

/-- A verdict on a transaction agrees with what the notary remembers: a finalization is remembered,
and so is a rejection, unless it is for a signature and the transaction is finalized with others. -/
def BorneOut (notary : Notary) (signed : SignedTransaction) : Outcome → Prop
  | .finalized id => id = signed.id ∧ notary.outcome? id = some (.finalized id)
  | .rejected reason => notary.outcome? signed.id = some (.rejected reason) ∨
      signed.verify = .error reason ∧ notary.outcome? signed.id = some (.finalized signed.id)
  | .unreachable _ => True

/-- **The verdict of a notary is borne out by what it remembers afterwards.** -/
theorem Consistent.borneOut_answer {notary : Notary} {submission : Submission} {outcome : Outcome}
    (consistent : Consistent notary) (answered : notary.answer submission = .ok outcome) :
    (notary.after submission).BorneOut submission.signed outcome := by
  have taken := notary.step submission
  rw [answered] at taken
  have later := consistent.step taken
  cases outcome with
  | finalized id =>
    obtain ⟨same, -, record, found⟩ := consistent.answer_finalized taken
    exact ⟨same, later.outcome?_eq found⟩
  | rejected reason =>
    obtain ⟨-, -, refusal, after_eq⟩ := taken.of_rejected
    cases found : notary.finalized.get? submission.signed.id with
    | none =>
      have remembered : (notary.after submission).record? submission.signed.id =
          some ⟨.rejected reason, submission.signed, []⟩ := by
        rw [after_eq]
        exact record?_remember_of_rejected found rfl
      rw [BorneOut, outcome?, remembered]
      exact Or.inl rfl
    | some record =>
      have known := (consistent.finalized?_eq _).trans found
      cases refusal with
      | unsigned failed => exact Or.inr ⟨failed, later.outcome?_eq (taken.get?_finalized found)⟩
      | untimely _ unseen | conflicting _ unseen =>
        -- only a transaction that is not finalized is refused for these
        rw [known] at unseen
        cases unseen
  | unreachable => trivial

end Notary

/-! ### Links -/

namespace LocalLink

/-- The links to a notary that can come about: one to a fresh notary, and what becomes of a link
when the network or the settings change, when something is submitted over it, and when the notary
rules on what others bring. -/
inductive Reachable : LocalLink → Prop
  | fresh (identity : Party) : Reachable (.fresh (.fresh identity))
  | partition {link : LocalLink} (reachable : Reachable link) (partitioned : Bool) :
      Reachable (link.partition partitioned)
  | failNext {link : LocalLink} (reachable : Reachable link) (failures : Nat) :
      Reachable (link.failNext failures)
  | holdBack {link : LocalLink} (reachable : Reachable link) (delay : Nat) :
      Reachable (link.holdBack delay)
  | submit {link : LocalLink} (reachable : Reachable link) (now : Instant)
      (signed : SignedTransaction) (observers : List Party) :
      Reachable (link.submit now signed observers).2
  | elsewhere {link : LocalLink} (reachable : Reachable link) (submission : Submission) :
      Reachable { link with notary := link.notary.after submission }

/-- What a submission does: it reaches the notary, which rules on it, or it fails and the notary is
as before. -/
theorem submit_cases (link : LocalLink) (now : Instant) (signed : SignedTransaction)
    (observers : List Party) :
    (∃ cause, (link.submit now signed observers).1.value = .error cause ∧
      (link.submit now signed observers).2.notary = link.notary) ∨
    ((link.submit now signed observers).1.value =
        (link.notary.answer ⟨now, signed, observers⟩).mapError .notary ∧
      (link.submit now signed observers).2.notary =
        link.notary.after ⟨now, signed, observers⟩) := by
  unfold submit
  dsimp only
  split
  · exact Or.inl ⟨_, rfl, rfl⟩
  · unfold pass
    dsimp only
    split
    · exact Or.inl ⟨_, rfl, rfl⟩
    · refine Or.inr ?_
      unfold Notary.answer Notary.after
      dsimp only
      split
      · rename_i ruled
        rw [ruled]
        exact ⟨rfl, rfl⟩
      · rename_i ruled
        rw [ruled]
        exact ⟨rfl, rfl⟩

theorem Reachable.consistent {link : LocalLink} (reachable : Reachable link) :
    link.notary.Consistent := by
  induction reachable with
  | fresh identity => exact Notary.consistent_fresh identity
  | partition _ _ before | failNext _ _ before | holdBack _ _ before => exact before
  | submit _ now signed observers before =>
    rename_i link _
    rcases link.submit_cases now signed observers with ⟨_, -, kept⟩ | ⟨-, ruled⟩
    · rw [kept]
      exact before
    · rw [ruled]
      exact before.step (link.notary.step _)
  | elsewhere _ submission before => exact before.step (Notary.step _ submission)

/-- The outcome of a submission that is waited for is borne out. -/
theorem Reachable.borneOut_submit {link : LocalLink} (reachable : Reachable link) (now : Instant)
    (signed : SignedTransaction) (observers : List Party) :
    (link.submit now signed observers).2.notary.BorneOut signed
      (Finalizer.outcomeOf (some (link.submit now signed observers).1.value)) := by
  rcases link.submit_cases now signed observers with ⟨_, failed, -⟩ | ⟨value_eq, notary_eq⟩
  · rw [failed]
    trivial
  · rw [value_eq, notary_eq]
    cases answered : link.notary.answer ⟨now, signed, observers⟩ with
    | error => trivial
    | ok outcome => exact reachable.consistent.borneOut_answer answered

/-- The link as a channel that is shared: before a submission arrives the clock moves, others
submit, and the network and the settings change. -/
def sharedChannel (clock : LocalLink → Instant) (others : LocalLink → LocalLink) :
    Channel LocalLink :=
  ⟨fun link signed observers => (others link).submit (clock link) signed observers, ask⟩

theorem channel_eq_sharedChannel (now : Instant) : channel now = sharedChannel (fun _ => now) id :=
  rfl

end LocalLink

/-! ### Attempts -/

section Attempts

variable [Timers] {clock : LocalLink → Instant} {others : LocalLink → LocalLink}

/-- **The outcome of an attempt is borne out by what the notary remembers.** -/
theorem Finalizer.borneOut_finalize (kept : ∀ link, link.Reachable → (others link).Reachable)
    {timeout : Nat} {connection later : Connection LocalLink} {signed : SignedTransaction}
    {observers : List Party} {outcome : Outcome}
    (ended : (Finalizer.mk (LocalLink.sharedChannel clock others) timeout).finalize connection
      signed observers = (outcome, later))
    (reachable : connection.state.Reachable) :
    later.state.Reachable ∧ later.state.notary.BorneOut signed outcome := by
  have arrived := kept _ reachable
  have submitted := arrived.submit (clock connection.state) signed observers
  unfold finalize Connection.await LocalLink.sharedChannel at ended
  dsimp only at ended
  split at ended
  · split at ended
    · cases ended
      exact ⟨submitted, arrived.borneOut_submit _ signed observers⟩
    · cases ended
      exact ⟨submitted, trivial⟩
  · cases ended
    exact ⟨submitted, trivial⟩

/-- From whatever attempt on, the answer is borne out by what the notary remembers. -/
theorem MintFlow.borneOut_submitFrom (flow : MintFlow)
    (kept : ∀ link, link.Reachable → (others link).Reachable) (signed : SignedTransaction)
    (observers : List Party) (attempt left : Nat) {connection : Connection LocalLink}
    (reachable : connection.state.Reachable) :
    let ending := flow.submitFrom (LocalLink.sharedChannel clock others) signed observers attempt
      left connection
    (∀ id, ending.1 = .ok id → ending.2.state.notary.BorneOut signed (.finalized id)) ∧
    (∀ error, ending.1 = .error error → error.outcomeKnown = true →
      ∃ reason, error = .rejected signed.id reason ∧
        ending.2.state.notary.BorneOut signed (.rejected reason)) := by
  fun_induction flow.submitFrom (LocalLink.sharedChannel clock others) signed observers attempt
    left connection with
  -- by the verdict of the attempt; the last case tries again from the link that is left
  | case1 attempt left connection later id ended =>
    obtain ⟨-, borneOut⟩ := Finalizer.borneOut_finalize kept ended reachable
    refine ⟨fun answer same => ?_, nofun⟩
    cases same
    exact borneOut
  | case2 attempt left connection later reason ended =>
    obtain ⟨-, borneOut⟩ := Finalizer.borneOut_finalize kept ended reachable
    refine ⟨nofun, fun error same _ => ?_⟩
    cases same
    exact ⟨reason, rfl, borneOut⟩
  | case3 attempt connection later cause ended =>
    refine ⟨nofun, fun error same known => ?_⟩
    cases same
    cases known
  | case4 attempt connection later cause left pause ended again =>
    exact again (Finalizer.borneOut_finalize kept ended reachable).1

/-- **What the answer of the flow says about the ledger**, over every link that can come about and
whatever happens on it between the attempts. An id that is returned is that of the transaction,
which the notary remembers as finalized. An error with a known outcome is a rejection of the
transaction, which the notary remembers with the same reason, unless the signatures that the
transaction was submitted with do not verify and it is finalized with others. -/
theorem MintFlow.finalize_borneOut (clock : LocalLink → Instant) {others : LocalLink → LocalLink}
    (kept : ∀ link, link.Reachable → (others link).Reachable) (flow : MintFlow)
    {connection : Connection LocalLink} (reachable : connection.state.Reachable)
    (signed : SignedTransaction) (observers : List Party) :
    let ending := flow.finalize (LocalLink.sharedChannel clock others) connection signed observers
    let notary := ending.2.state.notary
    (∀ id, ending.1 = .ok id → id = signed.id ∧ notary.outcome? id = some (.finalized id)) ∧
    (∀ error, ending.1 = .error error → error.outcomeKnown = true →
      ∃ reason, error = .rejected signed.id reason ∧
        (notary.outcome? signed.id = some (.rejected reason) ∨
          signed.verify = .error reason ∧
            notary.outcome? signed.id = some (.finalized signed.id))) :=
  flow.borneOut_submitFrom kept signed observers 1 (flow.config.maxAttempts.toNat - 1) reachable

/-- **A finalized transaction that comes with missing or invalid signatures is reported as
rejected** by every flow over a link without trouble, and the notary stays as it is. -/
theorem MintFlow.finalize_of_not_verified {notary : Notary} {signed : SignedTransaction}
    {reason : RejectionReason} {record : NotaryRecord}
    (addressed : signed.proposal.notary = notary.identity)
    (acceptable : signed.proposal.validate = .ok ()) (failed : signed.verify = .error reason)
    (found : notary.finalized.get? signed.id = some record) (flow : MintFlow) (now : Instant)
    (waited : Nat) (observers : List Party) :
    let ending := flow.finalize (LocalLink.channel now) ⟨.fresh notary, waited⟩ signed observers
    ending.1 = .error (.rejected signed.id reason) ∧ ending.2.state.notary = notary := by
  have known : notary.finalized.contains signed.id = true :=
    Option.isSome_iff_exists.mpr ⟨record, found⟩
  have refused : notary.notarise now signed observers = (.ok (.rejected reason), notary) := by
    have taken : notary.Step ⟨now, signed, observers⟩ _ _ :=
      .refused addressed acceptable (.unsigned failed)
    rw [Notary.remember_of_contains known] at taken
    exact taken.notarise_eq
  have ended :
      (flow.finalizer (LocalLink.channel now)).finalize ⟨.fresh notary, waited⟩ signed observers =
        (.rejected reason, ⟨{ LocalLink.fresh notary with submissions := 1 }, waited⟩) := by
    simp [Finalizer.finalize, finalizer, LocalLink.channel, LocalLink.submit, LocalLink.pass,
      LocalLink.fresh, refused, Connection.await, Connection.wait, Finalizer.outcomeOf]
  unfold finalize submitFrom
  rw [ended]
  exact ⟨rfl, rfl⟩

end Attempts

end Scheme

/-! The mint without a signature, after it was finalized with one. -/

namespace Notary.GoldMint

def flow : MintFlow where
  membership := .alone ⟨issuer.name, [issuer.key]⟩
  notaries := [notary]
  keys := .empty
  config := ⟨86400, 30000, 3, .fixed 500⟩

def settled : Notary := (Notary.fresh notary).after inTime

def bare : SignedTransaction := .unsigned proposal

theorem proposal_bare : inTime.signed.proposal = bare.proposal := rfl

theorem id_bare : inTime.signed.id = bare.id := congrArg Proposal.id proposal_bare

theorem verify_bare : bare.verify = .error (.missingSignature issuer) := rfl

theorem reachable_settled : (LocalLink.fresh settled).Reachable :=
  (LocalLink.Reachable.fresh notary).elsewhere inTime

theorem identity_settled : settled.identity = notary :=
  ((Notary.fresh notary).step inTime).identity_eq

theorem outcome?_settled : settled.outcome? bare.id = some (.finalized bare.id) := by
  rw [← id_bare]
  exact ((consistent_fresh notary).borneOut_answer answer_inTime).2

theorem exists_record : ∃ record, settled.finalized.get? bare.id = some record := by
  have taken := (Notary.fresh notary).step inTime
  rw [answer_inTime] at taken
  rw [← id_bare]
  exact ((consistent_fresh notary).answer_finalized taken).2.2

theorem finalize_bare :
    let ending := flow.finalize (LocalLink.channel during) ⟨.fresh settled, 0⟩ bare []
    ending.1 = .error (.rejected bare.id (.missingSignature issuer)) ∧
      ending.2.state.notary = settled := by
  obtain ⟨record, found⟩ := exists_record
  exact MintFlow.finalize_of_not_verified identity_settled.symm (proposal_bare ▸ acceptable)
    verify_bare found flow during 0 []

end Notary.GoldMint

open Notary.GoldMint in
theorem MintFlow.finalize_borneOut_bare :
    let ending := flow.finalize (LocalLink.channel during) ⟨.fresh settled, 0⟩ bare []
    let outcome? := ending.2.state.notary.outcome? bare.id
    (LocalLink.fresh settled).Reachable ∧
      ending.1 = .error (.rejected bare.id (.missingSignature issuer)) ∧
      (outcome? = some (.rejected (.missingSignature issuer)) ∨
        bare.verify = .error (.missingSignature issuer) ∧
          outcome? = some (.finalized bare.id)) := by
  obtain ⟨answered, -⟩ := finalize_bare
  have reachable : (Connection.mk (LocalLink.fresh settled) 0).state.Reachable := reachable_settled
  have kept : ∀ link, LocalLink.Reachable link → (id link).Reachable := fun _ same => same
  rw [LocalLink.channel_eq_sharedChannel] at answered ⊢
  obtain ⟨-, refused⟩ := finalize_borneOut (fun _ => during) kept flow reachable bare []
  obtain ⟨reason, same, borneOut⟩ := refused _ answered rfl
  rw [← (FlowError.rejected.inj same).2] at borneOut
  exact ⟨reachable_settled, answered, borneOut⟩

open Notary.GoldMint in
/-- **A known outcome can be wrong**: the flow reports a rejection, hence that the outcome is known,
of a transaction that is on the ledger, because this time it came without its signature. -/
theorem MintFlow.rejected_but_finalized :
    let ending := flow.finalize (LocalLink.channel during) ⟨.fresh settled, 0⟩ bare []
    let error := FlowError.rejected bare.id (.missingSignature issuer)
    (LocalLink.fresh settled).Reachable ∧ ending.1 = .error error ∧ error.outcomeKnown = true ∧
      ending.2.state.notary.outcome? bare.id = some (.finalized bare.id) := by
  obtain ⟨answered, kept⟩ := finalize_bare
  refine ⟨reachable_settled, answered, rfl, ?_⟩
  rw [kept]
  exact outcome?_settled

end TokenLedger
