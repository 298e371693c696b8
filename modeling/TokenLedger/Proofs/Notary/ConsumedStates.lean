import Mathlib.Data.List.Basic
import TokenLedger.Notary.ConsumedStates
/-!
Laws of consuming states.

* `mem_conflicts`: the conflicts of a transaction are those of its inputs that another transaction
  consumed.
* `conflicts_sublist`: they only grow.
* `consumer?_mark`: marking puts a transaction down as the consumer of its inputs, and changes the
  consumer of no other state.
* `commit_of_free` and `commit_of_taken`: without a conflict every input is marked, and with one
  nothing is.
-/

namespace TokenLedger.ConsumedStates

/-! ### Conflicts -/

theorem takenFrom_iff {consumed : ConsumedStates} {id : TransactionId} {state : StateRef} :
    consumed.takenFrom id state = true ↔
      ∃ holder, consumed.consumer? state = some holder ∧ holder ≠ id := by
  unfold takenFrom
  cases consumed.consumer? state with
  | none => simp
  | some holder => simp

/-- A state that nobody consumed is not taken from anyone. -/
theorem not_takenFrom_of_none {consumed : ConsumedStates} {id : TransactionId} {state : StateRef}
    (there : consumed.consumer? state = none) : ¬ consumed.takenFrom id state = true := by
  rw [takenFrom, there]
  exact Bool.false_ne_true

/-- The conflicts are the inputs that another transaction consumed. -/
theorem mem_conflicts {consumed : ConsumedStates} {inputs : List StateRef} {id : TransactionId}
    {state : StateRef} :
    state ∈ consumed.conflicts inputs id ↔
      state ∈ inputs ∧ ∃ holder, consumed.consumer? state = some holder ∧ holder ≠ id := by
  rw [conflicts, List.mem_filter, takenFrom_iff]

/-- Without conflicts an input is not consumed, or consumed by the transaction itself. -/
theorem consumer?_eq_of_free {consumed : ConsumedStates} {inputs : List StateRef}
    {id holder : TransactionId} {state : StateRef} (free : consumed.conflicts inputs id = [])
    (isInput : state ∈ inputs) (held : consumed.consumer? state = some holder) : holder = id := by
  by_cases same : holder = id
  · exact same
  · have taken : state ∈ consumed.conflicts inputs id :=
      mem_conflicts.mpr ⟨isInput, holder, held, same⟩
    rw [free] at taken
    exact absurd taken List.not_mem_nil

/-- More consumed states make more conflicts, and the earlier ones keep their order. -/
theorem conflicts_sublist {earlier later : ConsumedStates} (inputs : List StateRef)
    (id : TransactionId)
    (kept : ∀ {state holder}, earlier.consumer? state = some holder →
      later.consumer? state = some holder) :
    (earlier.conflicts inputs id).Sublist (later.conflicts inputs id) := by
  refine List.monotone_filter_right inputs fun state taken => ?_
  obtain ⟨holder, held, different⟩ := takenFrom_iff.mp taken
  exact takenFrom_iff.mpr ⟨holder, kept held, different⟩

/-! ### Marking -/

/-- **Marking** puts the transaction down as the consumer of its inputs, and of nothing else. -/
theorem consumer?_mark (consumed : ConsumedStates) (inputs : List StateRef) (id : TransactionId)
    (state : StateRef) :
    (consumed.mark inputs id).consumer? state =
      if state ∈ inputs then some id else consumed.consumer? state := by
  induction inputs generalizing consumed with
  | nil => rfl
  | cons input rest ih =>
    have tail : (consumed.mark (input :: rest) id).consumer? state =
        if state ∈ rest then some id else (consumed.mark [input] id).consumer? state :=
      ih (consumed.mark [input] id)
    have head : (consumed.mark [input] id).consumer? state =
        if state = input then some id else consumed.consumer? state :=
      SortedMap.get?_insert consumed.consumers input state id
    rw [tail, head]
    by_cases here : state = input
    · simp [here]
    · simp [here]

/-! ### Committing -/

theorem commit_of_free {consumed : ConsumedStates} {inputs : List StateRef} {id : TransactionId}
    (free : consumed.conflicts inputs id = []) :
    consumed.commit inputs id = (.committed, consumed.mark inputs id) := by
  unfold commit
  rw [free]

theorem commit_of_taken {consumed : ConsumedStates} {inputs : List StateRef} {id : TransactionId}
    (taken : consumed.conflicts inputs id ≠ []) :
    consumed.commit inputs id = (.conflict (consumed.conflicts inputs id), consumed) := by
  unfold commit
  split
  · contradiction
  · rfl

end TokenLedger.ConsumedStates
