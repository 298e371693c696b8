import TokenLedger.Identifier
import TokenLedger.SortedMap
/-!
Which transaction consumed which state.

`commit` marks a list of states as consumed by a transaction, all of them or none. States that
another transaction consumed are conflicts, reported in the order and as often as they were given; a
transaction never conflicts with itself, so committing it again succeeds and changes nothing.
-/

namespace TokenLedger

/-- The transaction that consumed each consumed state. -/
structure ConsumedStates where
  consumers : SortedMap StateRef TransactionId
deriving DecidableEq

/-- The answer to a request to consume states. -/
inductive Commitment where
  | committed
  /-- These states were consumed by other transactions; nothing was marked. -/
  | conflict (states : List StateRef)
deriving DecidableEq, Repr

namespace ConsumedStates

def empty : ConsumedStates := ⟨.empty⟩

instance : Inhabited ConsumedStates := ⟨empty⟩

/-- The number of consumed states. -/
def size (consumed : ConsumedStates) : Nat := consumed.consumers.size

/-- The transaction that consumed a state. -/
def consumer? (consumed : ConsumedStates) (state : StateRef) : Option TransactionId :=
  consumed.consumers.get? state

/-- Whether a state was consumed by another transaction than this. -/
def takenFrom (consumed : ConsumedStates) (id : TransactionId) (state : StateRef) : Bool :=
  match consumed.consumer? state with
  | some consumer => consumer != id
  | none => false

/-- Those of the inputs that other transactions consumed. -/
def conflicts (consumed : ConsumedStates) (inputs : List StateRef) (id : TransactionId) :
    List StateRef :=
  inputs.filter (consumed.takenFrom id)

/-- Marks every input as consumed by the transaction. -/
def mark (consumed : ConsumedStates) (inputs : List StateRef) (id : TransactionId) :
    ConsumedStates :=
  ⟨inputs.foldl (fun consumers input => consumers.insert input id) consumed.consumers⟩

/-- Consumes all inputs for the transaction, or none of them. -/
def commit (consumed : ConsumedStates) (inputs : List StateRef) (id : TransactionId) :
    Commitment × ConsumedStates :=
  match consumed.conflicts inputs id with
  | [] => (.committed, consumed.mark inputs id)
  | taken => (.conflict taken, consumed)

end ConsumedStates

end TokenLedger
