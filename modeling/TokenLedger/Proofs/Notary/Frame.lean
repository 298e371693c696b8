import TokenLedger.Proofs.Notary.Consistency
/-!
What a call to a notary changes, and what it leaves alone.

A notary writes to three places: the consumed states, the finalized records and the last rejection.
What a call may write follows from its answer and from whether its transaction was finalized before:

* without a verdict, or on a transaction that was finalized before, nothing changes
  (`Step.eq_of_error`, `Consistent.eq_of_finalized?`);
* a rejection of another transaction takes the place of the last rejection (`Superseding`), so that
  every other transaction that is not finalized reads as unseen;
* a finalization adds one record and the consumed inputs (`Extending`), and changes the verdict on
  no other transaction. The last rejection stays, even if it was of the transaction that is
  finalized now: the finalized record is asked first.

`run_fresh_frame` puts these together for every state that a run can reach.
-/

namespace TokenLedger.Notary

section Memory

variable {notary : Notary} {id : TransactionId}

/-! ### What is read back -/

/-- What is remembered as finalized are the finalized verdicts. -/
theorem isSome_finalized?_iff :
    (notary.finalized? id).isSome = true ↔
      ∃ outcome, notary.outcome? id = some outcome ∧ outcome.isFinalized = true := by
  rw [Option.isSome_iff_exists, finalized?, outcome?]
  constructor
  · rintro ⟨record, kept⟩
    obtain ⟨remembered, finalized⟩ := Option.filter_eq_some_iff.mp kept
    exact ⟨record.outcome, by rw [remembered, Option.map_some], finalized⟩
  · rintro ⟨outcome, verdict, finalized⟩
    obtain ⟨record, remembered, rfl⟩ := Option.map_eq_some_iff.mp verdict
    exact ⟨record, Option.filter_eq_some_iff.mpr ⟨remembered, finalized⟩⟩

/-- What is read back depends on the finalized record of the transaction and on the last rejection
alone. -/
theorem record?_congr {other : Notary} (finalized : other.finalized.get? id = notary.finalized.get? id)
    (lastRejection : other.lastRejection = notary.lastRejection) :
    other.record? id = notary.record? id := by
  rw [record?, record?, finalized, lastRejection]

end Memory

/-! ### The two changes -/

/-- A rejection takes the place of the last one, and nothing else changes: it is what the notary
remembers of the transaction, without observers, and of every other transaction it remembers a
finalization at most. -/
structure Superseding (before : Notary) (signed : SignedTransaction) (reason : RejectionReason)
    (after : Notary) : Prop where
  finalized_eq : after.finalized = before.finalized
  consumed_eq : after.consumed = before.consumed
  record?_eq : after.record? signed.id = some ⟨.rejected reason, signed, []⟩
  outcome?_eq : after.outcome? signed.id = some (.rejected reason)
  outcome?_other : ∀ other, other ≠ signed.id → before.finalized? other = none →
    after.outcome? other = none

/-- A transaction becomes finalized, and nothing else changes: its inputs, which nobody had
consumed, are consumed by it; it has a record, with the observers that were named; and the last
rejection and the verdict on every other transaction are as before. -/
structure Extending (before : Notary) (submission : Submission) (after : Notary) : Prop where
  lastRejection_eq : after.lastRejection = before.lastRejection
  unconsumed : ∀ state ∈ submission.signed.proposal.inputRefs, before.consumer? state = none
  consumer?_eq : ∀ state, after.consumer? state =
    if state ∈ submission.signed.proposal.inputRefs then some submission.signed.id
    else before.consumer? state
  get?_finalized_eq : ∀ id, after.finalized.get? id =
    if id = submission.signed.id then
      some ⟨.finalized submission.signed.id, submission.signed, submission.observers⟩
    else before.finalized.get? id
  outcome?_eq : after.outcome? submission.signed.id = some (.finalized submission.signed.id)
  outcome?_other : ∀ other, other ≠ submission.signed.id →
    after.outcome? other = before.outcome? other

variable [SignatureScheme] {notary next : Notary} {submission : Submission}

/-! ### Calls that change nothing -/

theorem Step.eq_of_error {error : NotaryError}
    (taken : Step notary submission (.error error) next) : next = notary := by
  cases taken with
  | misaddressed | unacceptable => rfl

/-- A verdict is a rejection, or the finalization of the transaction that was brought. -/
theorem Consistent.verdict_cases (consistent : Consistent notary) {outcome : Outcome}
    (taken : Step notary submission (.ok outcome) next) :
    (∃ reason, outcome = .rejected reason) ∨ outcome = .finalized submission.signed.id := by
  cases taken with
  | refused => exact Or.inl ⟨_, rfl⟩
  | replayed _ found =>
    rw [consistent.finalized?_eq] at found
    exact Or.inr (consistent.justified found).outcome_eq
  | settled => exact Or.inr rfl

/-- A transaction that is finalized changes nothing, whatever it is answered. -/
theorem Consistent.eq_of_finalized? (consistent : Consistent notary)
    {result : Except NotaryError Outcome} {record : NotaryRecord}
    (taken : Step notary submission result next)
    (found : notary.finalized? submission.signed.id = some record) : next = notary := by
  cases taken with
  | misaddressed | unacceptable | replayed => rfl
  | refused =>
    have kept := (consistent.finalized?_eq _).symm.trans found
    have known : notary.finalized.contains submission.signed.id = true :=
      Option.isSome_iff_exists.mpr ⟨record, kept⟩
    exact remember_of_contains known
  | settled _ unseen =>
    rw [found] at unseen
    cases unseen

/-! ### Calls that change something -/

/-- **A rejection of a transaction that is not finalized** takes the place of the last one. -/
theorem Consistent.superseding (consistent : Consistent notary) {reason : RejectionReason}
    (taken : Step notary submission (.ok (.rejected reason)) next)
    (unseen : notary.finalized? submission.signed.id = none) :
    Superseding notary submission.signed reason next := by
  have new : notary.finalized.get? submission.signed.id = none :=
    (consistent.finalized?_eq _).symm.trans unseen
  obtain ⟨-, -, -, after_eq⟩ := taken.of_rejected
  have record_eq : next.record? submission.signed.id =
      some ⟨.rejected reason, submission.signed, []⟩ := by
    rw [after_eq]
    exact record?_remember_of_rejected new rfl
  rw [remember_of_rejected new rfl] at after_eq
  have finalized_eq : next.finalized = notary.finalized := by rw [after_eq]
  have last_eq : next.lastRejection = some ⟨.rejected reason, submission.signed, []⟩ := by
    rw [after_eq]
  refine ⟨finalized_eq, by rw [after_eq], record_eq, by rw [outcome?, record_eq]; rfl, ?_⟩
  intro other different not_finalized
  have other_new : notary.finalized.get? other = none :=
    (consistent.finalized?_eq _).symm.trans not_finalized
  rw [outcome?, record?_of_not_finalized (finalized_eq ▸ other_new) last_eq,
    if_neg different.symm, Option.map_none]

/-- **A finalization of a transaction that is not finalized** adds its record and consumes its
inputs. -/
theorem Consistent.extending (consistent : Consistent notary) {id : TransactionId}
    (taken : Step notary submission (.ok (.finalized id)) next)
    (unseen : notary.finalized? submission.signed.id = none) :
    Extending notary submission next := by
  generalize answered : Except.ok (Outcome.finalized id) = result at taken
  cases taken with
  | misaddressed | unacceptable | refused => cases answered
  | replayed _ found =>
    rw [unseen] at found
    cases found
  | settled admissible _ timely free =>
    have new : notary.finalized.get? submission.signed.id = none :=
      (consistent.finalized?_eq _).symm.trans unseen
    have later : Consistent (notary.finalize submission) :=
      consistent.finalize admissible unseen free
    rw [consistent.finalize_eq unseen] at later ⊢
    have records := SortedMap.get?_insert notary.finalized submission.signed.id
    refine ⟨rfl, fun state => consistent.unconsumed_of_free new free,
      ConsumedStates.consumer?_mark _ _ _, fun asked => records asked _, ?_, ?_⟩
    · exact later.outcome?_eq (SortedMap.get?_insert_self _ _ _)
    · intro other different
      have kept := SortedMap.get?_insert_of_ne different notary.finalized
      exact congrArg (Option.map NotaryRecord.outcome) (record?_congr (kept _) rfl)

/-! ### Every call, in every state -/

/-- **What a call changes, in every state that a run can reach.** A call without a verdict changes
nothing, and neither does one that brings a finalized transaction, which stays finalized even if it
is rejected this time. A rejection of another transaction only takes the place of the last
rejection, and a finalization only adds one record and consumes the inputs. There are no other
verdicts; and the finalized transactions are those whose verdict is a finalization. -/
theorem run_fresh_frame (identity : Party) (history : List Submission) (submission : Submission) :
    let before := (fresh identity).run history
    let after := before.after submission
    let signed := submission.signed
    (∀ error, before.answer submission = .error error → after = before) ∧
    (∀ outcome, before.answer submission = .ok outcome →
      (∃ reason, outcome = .rejected reason) ∨ outcome = .finalized signed.id) ∧
    (∀ outcome, before.answer submission = .ok outcome → (before.finalized? signed.id).isSome →
      after = before ∧ after.outcome? signed.id = some (.finalized signed.id)) ∧
    (∀ reason, before.answer submission = .ok (.rejected reason) →
      before.finalized? signed.id = none → Superseding before signed reason after) ∧
    (∀ id, before.answer submission = .ok (.finalized id) →
      before.finalized? signed.id = none → Extending before submission after) ∧
    (∀ id, (before.finalized? id).isSome ↔
      ∃ outcome, before.outcome? id = some outcome ∧ outcome.isFinalized) := by
  intro before after signed
  have consistent : Consistent before := consistent_run identity history
  have taken : Step before submission (before.answer submission) after := before.step submission
  refine ⟨fun error answered => ?_, fun outcome answered => ?_, fun outcome answered known => ?_,
    fun reason answered unseen => ?_, fun id answered unseen => ?_, fun id => ?_⟩
  · rw [answered] at taken
    exact taken.eq_of_error
  · rw [answered] at taken
    exact consistent.verdict_cases taken
  · obtain ⟨record, found⟩ := Option.isSome_iff_exists.mp known
    have kept := (consistent.finalized?_eq _).symm.trans found
    have unchanged : after = before := consistent.eq_of_finalized? taken found
    rw [unchanged]
    exact ⟨rfl, consistent.outcome?_eq kept⟩
  · rw [answered] at taken
    exact consistent.superseding taken unseen
  · rw [answered] at taken
    exact consistent.extending taken unseen
  · exact isSome_finalized?_iff

end TokenLedger.Notary
