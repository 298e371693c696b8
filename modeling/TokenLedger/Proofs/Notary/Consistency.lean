import TokenLedger.Proofs.Notary.Run
import TokenLedger.Proofs.Signing.Verification
/-!
The two stores of a notary agree.

A notary keeps who consumed which state, and which transactions it finalized. They are written one
after the other, and only a fresh finalization writes either. `Consistent` says what holds of both
between any two submissions:

* every finalized record lies under its own id, with the verdict that finalized it, and its
  transaction is one that the notary admits (`Justified`);
* what is remembered as rejected is not finalized;
* **a state is consumed by a transaction exactly if that transaction has a finalized record and the
  state is one of its inputs.**

The last part is what makes the others go through: an input that a transaction is said to have
consumed itself would have a record under its id, so a transaction that is not finalized yet starts
from inputs that nobody consumed (`unconsumed_of_free`).

`run_fresh_no_double_spend` draws the conclusion for whole runs: no state is spent twice, and a
rejection for double spending names exactly the inputs that another finalized transaction holds.
-/

namespace TokenLedger.Notary

variable [SignatureScheme]

/-- The record of a transaction that a notary of this name was right to finalize. -/
structure Justified (identity : Party) (id : TransactionId) (record : NotaryRecord) : Prop where
  outcome_eq : record.outcome = .finalized id
  id_eq : record.transaction.id = id
  admissible : Admissible identity record.transaction

/-- What holds of the stores of a notary between any two submissions. -/
structure Consistent (notary : Notary) : Prop where
  justified : ∀ {id record}, notary.finalized.get? id = some record →
    Justified notary.identity id record
  last_rejected : ∀ {record}, notary.lastRejection = some record →
    record.outcome.isFinalized = false
  consumer?_eq_some_iff : ∀ {state id}, notary.consumer? state = some id ↔
    ∃ record, notary.finalized.get? id = some record ∧
      state ∈ record.transaction.proposal.inputRefs

theorem consistent_fresh (identity : Party) : Consistent (fresh identity) where
  justified found := by cases found
  last_rejected found := by cases found
  consumer?_eq_some_iff := by
    intro state id
    constructor
    · intro held
      cases held
    · rintro ⟨record, found, -⟩
      cases found

namespace Consistent

variable {notary : Notary}

/-! ### What a consistent notary answers -/

/-- The finalized transactions of a consistent notary are those of its finalized records. -/
theorem finalized?_eq (consistent : Consistent notary) (id : TransactionId) :
    notary.finalized? id = notary.finalized.get? id := by
  unfold finalized? record?
  cases found : notary.finalized.get? id with
  | some record =>
    have finalized : record.outcome.isFinalized = true := by
      rw [(consistent.justified found).outcome_eq]
      rfl
    exact Option.filter_some_pos finalized
  | none =>
    refine Option.eq_none_iff_forall_ne_some.mpr fun record kept => ?_
    obtain ⟨remembered, finalized⟩ := Option.filter_eq_some_iff.mp kept
    obtain ⟨last, -⟩ := Option.filter_eq_some_iff.mp remembered
    rw [consistent.last_rejected last] at finalized
    cases finalized

/-- The verdict that a consistent notary remembers of a finalized transaction. -/
theorem outcome?_eq (consistent : Consistent notary) {id : TransactionId} {record : NotaryRecord}
    (found : notary.finalized.get? id = some record) :
    notary.outcome? id = some (.finalized id) := by
  rw [outcome?_of_finalized? ((consistent.finalized?_eq id).trans found),
    (consistent.justified found).outcome_eq]

/-- The inputs of a transaction without conflicts that is not finalized are not consumed. -/
theorem unconsumed_of_free (consistent : Consistent notary) {inputs : List StateRef}
    {id : TransactionId} {state : StateRef} (new : notary.finalized.get? id = none)
    (free : notary.consumed.conflicts inputs id = []) (isInput : state ∈ inputs) :
    notary.consumer? state = none := by
  refine Option.eq_none_iff_forall_ne_some.mpr fun holder held => ?_
  have same : holder = id := ConsumedStates.consumer?_eq_of_free free isInput held
  obtain ⟨record, found, -⟩ := consistent.consumer?_eq_some_iff.mp held
  rw [same, new] at found
  cases found

/-! ### What every step keeps -/

/-- Remembering a rejection keeps the stores in agreement. -/
theorem remember_rejected (consistent : Consistent notary) (reason : RejectionReason)
    (signed : SignedTransaction) :
    Consistent (notary.remember ⟨.rejected reason, signed, []⟩) := by
  have records : (notary.remember ⟨.rejected reason, signed, []⟩).finalized = notary.finalized :=
    finalized_remember_of_not_isFinalized rfl
  refine ⟨fun found => ?_, fun found => ?_, fun {state id} => ?_⟩
  · rw [records] at found
    rw [identity_remember]
    exact consistent.justified found
  · rcases lastRejection_remember found with before | ⟨now, rejected⟩
    · exact consistent.last_rejected before
    · rw [← now]
      exact rejected
  · rw [records, consumer?, consumed_remember]
    exact consistent.consumer?_eq_some_iff

/-- The notary after a transaction was finalized that was not finalized before. -/
theorem finalize_eq (consistent : Consistent notary) {submission : Submission}
    (unseen : notary.finalized? submission.signed.id = none) :
    notary.finalize submission = { notary with
        consumed := notary.consumed.mark submission.signed.proposal.inputRefs submission.signed.id
        finalized := notary.finalized.insert submission.signed.id
          ⟨.finalized submission.signed.id, submission.signed, submission.observers⟩ } := by
  have new : notary.finalized.get? submission.signed.id = none :=
    (consistent.finalized?_eq _).symm.trans unseen
  exact remember_of_isFinalized new rfl

/-- **A fresh finalization keeps the stores in agreement**: the states it marks are its inputs,
which nobody consumed before, and the record it adds lies under an id that had none. -/
theorem finalize (consistent : Consistent notary) {submission : Submission}
    (admissible : Admissible notary.identity submission.signed)
    (unseen : notary.finalized? submission.signed.id = none)
    (free : notary.consumed.conflicts submission.signed.proposal.inputRefs
      submission.signed.id = []) :
    Consistent (notary.finalize submission) := by
  have new : notary.finalized.get? submission.signed.id = none :=
    (consistent.finalized?_eq _).symm.trans unseen
  rw [consistent.finalize_eq unseen]
  refine ⟨fun {id record} found => ?_, consistent.last_rejected, fun {state id} => ?_⟩
  · rw [SortedMap.get?_insert] at found
    split_ifs at found with same
    · cases found
      exact ⟨congrArg Outcome.finalized same.symm, same.symm, admissible⟩
    · exact consistent.justified found
  · rw [consumer?, ConsumedStates.consumer?_mark, SortedMap.get?_insert]
    by_cases isInput : state ∈ submission.signed.proposal.inputRefs
    · rw [if_pos isInput]
      constructor
      · intro same
        exact ⟨_, if_pos (Option.some.inj same).symm, isInput⟩
      · rintro ⟨record, found, spent⟩
        split_ifs at found with same
        · rw [same]
        · -- the state would have been consumed before
          have held := consistent.consumer?_eq_some_iff.mpr ⟨record, found, spent⟩
          rw [consistent.unconsumed_of_free new free isInput] at held
          cases held
    · rw [if_neg isInput]
      constructor
      · intro held
        obtain ⟨record, found, spent⟩ := consistent.consumer?_eq_some_iff.mp held
        have different : id ≠ submission.signed.id := fun same => by
          rw [same, new] at found
          cases found
        exact ⟨record, (if_neg different).trans found, spent⟩
      · rintro ⟨record, found, spent⟩
        split_ifs at found with same
        · cases found
          exact absurd spent isInput
        · exact consistent.consumer?_eq_some_iff.mpr ⟨record, found, spent⟩

/-- **Every step keeps the stores in agreement.** -/
theorem step {next : Notary} {submission : Submission} {result : Except NotaryError Outcome}
    (consistent : Consistent notary) (taken : Step notary submission result next) :
    Consistent next := by
  cases taken with
  | misaddressed | unacceptable | replayed => exact consistent
  | refused => exact consistent.remember_rejected _ _
  | settled admissible unseen timely free => exact consistent.finalize admissible unseen free

end Consistent

/-- **Every run keeps the stores in agreement.** -/
theorem Consistent.run {notary : Notary} (consistent : Consistent notary)
    (submissions : List Submission) : Consistent (notary.run submissions) :=
  run_induction (motive := Consistent)
    (fun earlier submission sound => sound.step (earlier.step submission)) consistent submissions

/-- A notary is consistent after every run that started from a fresh one. -/
theorem consistent_run (identity : Party) (submissions : List Submission) :
    Consistent ((fresh identity).run submissions) :=
  (consistent_fresh identity).run submissions

/-! ### Double spending -/

/-- A state is an input of a finalized transaction with another id. -/
def HeldElsewhere (notary : Notary) (id : TransactionId) (state : StateRef) : Prop :=
  ∃ holder record, holder ≠ id ∧ notary.finalized? holder = some record ∧
    state ∈ record.transaction.proposal.inputRefs

/-- The states that are consumed from a transaction are those that are held elsewhere. -/
theorem Consistent.takenFrom_iff {notary : Notary} (consistent : Consistent notary)
    {id : TransactionId} {state : StateRef} :
    notary.consumed.takenFrom id state = true ↔ notary.HeldElsewhere id state := by
  rw [ConsumedStates.takenFrom_iff]
  constructor
  · rintro ⟨holder, held, different⟩
    obtain ⟨record, found, spent⟩ := consistent.consumer?_eq_some_iff.mp held
    exact ⟨holder, record, different, (consistent.finalized?_eq holder).trans found, spent⟩
  · rintro ⟨holder, record, different, found, spent⟩
    rw [consistent.finalized?_eq] at found
    exact ⟨holder, consistent.consumer?_eq_some_iff.mpr ⟨record, found, spent⟩, different⟩

/-- Two finalized transactions with a common input are one transaction. -/
theorem Consistent.holder_unique {notary : Notary} (consistent : Consistent notary)
    {left right : TransactionId} {leftRecord rightRecord : NotaryRecord} {state : StateRef}
    (leftFound : notary.finalized.get? left = some leftRecord)
    (rightFound : notary.finalized.get? right = some rightRecord)
    (leftSpent : state ∈ leftRecord.transaction.proposal.inputRefs)
    (rightSpent : state ∈ rightRecord.transaction.proposal.inputRefs) : left = right := by
  have leftHeld := consistent.consumer?_eq_some_iff.mpr ⟨leftRecord, leftFound, leftSpent⟩
  have rightHeld := consistent.consumer?_eq_some_iff.mpr ⟨rightRecord, rightFound, rightSpent⟩
  rw [leftHeld] at rightHeld
  exact Option.some.inj rightHeld

/-- Only conflicts are refused as double spending, and then they are what is named. -/
theorem Refusal.conflicts_eq {notary : Notary} {submission : Submission}
    {conflicts : List StateRef} (refusal : Refusal notary submission (.doubleSpend conflicts)) :
    conflicts = notary.consumed.conflicts submission.signed.proposal.inputRefs
      submission.signed.id ∧ conflicts ≠ [] := by
  cases refusal with
  | unsigned failed =>
    obtain ⟨party, -, missing | invalid⟩ := SignedTransaction.verify_eq_error failed
    · cases missing
    · cases invalid
  | untimely _ _ failed =>
    rcases TimeWindow.check_eq_error failed with ⟨-, early⟩ | ⟨-, late⟩
    · cases early
    · cases late
  | conflicting _ _ _ taken => exact ⟨rfl, taken⟩

open Classical in
/-- **No state is spent twice, over every run of a notary.** The consumed states and the finalized
records determine each other; the inputs of two finalized transactions are disjoint; and a rejection
for double spending lists, in their order, exactly the inputs that another finalized transaction
holds, of which there is at least one. -/
theorem run_fresh_no_double_spend (identity : Party) (submissions : List Submission) :
    let notary := (fresh identity).run submissions
    (∀ state id, notary.consumer? state = some id ↔
      ∃ record, notary.finalized? id = some record ∧
        state ∈ record.transaction.proposal.inputRefs) ∧
    (∀ left right leftRecord rightRecord, left ≠ right →
      notary.finalized? left = some leftRecord → notary.finalized? right = some rightRecord →
      ∀ state ∈ leftRecord.transaction.proposal.inputRefs,
        state ∉ rightRecord.transaction.proposal.inputRefs) ∧
    (∀ submission conflicts,
      notary.answer submission = .ok (.rejected (.doubleSpend conflicts)) →
      conflicts = submission.signed.proposal.inputRefs.filter
          (fun state => decide (notary.HeldElsewhere submission.signed.id state)) ∧
        conflicts ≠ []) := by
  intro notary
  have consistent : Consistent notary := consistent_run identity submissions
  refine ⟨fun state id => ?_, ?_, ?_⟩
  · rw [consistent.finalized?_eq]
    exact consistent.consumer?_eq_some_iff
  · intro left right leftRec rightRec different leftFound rightFound state leftSpent rightSpent
    rw [consistent.finalized?_eq] at leftFound rightFound
    exact different (consistent.holder_unique leftFound rightFound leftSpent rightSpent)
  · intro submission conflicts answered
    have taken := notary.step submission
    rw [answered] at taken
    obtain ⟨-, -, refusal, -⟩ := taken.of_rejected
    obtain ⟨conflicts_eq, some_taken⟩ := refusal.conflicts_eq
    refine ⟨conflicts_eq.trans (List.filter_congr fun state _ => ?_), some_taken⟩
    exact Bool.eq_iff_iff.mpr (consistent.takenFrom_iff.trans decide_eq_true_iff.symm)

end TokenLedger.Notary
