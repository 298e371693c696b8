import TokenLedger.Notary.Service
/-!
Channels to a notary.

A channel takes signed transactions to a notary and brings back verdicts. It has a state that every
use may change, and a reply comes with the time it takes. An error means that no verdict arrived;
the transaction may be finalized all the same.
-/

namespace TokenLedger

variable [SignatureScheme]

/-- Why no verdict arrived. -/
inductive TransportError where
  | network (detail : String)
  /-- The notary answered with a failure instead of a verdict. -/
  | notary (cause : NotaryError)
  | context (detail : String)
deriving DecidableEq, Repr

def TransportError.message : TransportError → String
  | .network detail => "network error: " ++ detail
  | .notary cause => "notary error: " ++ cause.message
  | .context detail => detail

/-- The kind of the error in one word. -/
def TransportError.kind : TransportError → String
  | .network _ => "Network"
  | .notary _ => "Notary"
  | .context _ => "Context"

/-- A reply, and the milliseconds after which it arrives; `none` if it never does. -/
structure Reply (α : Type) where
  value : Except TransportError α
  delay : Option Nat

namespace Reply

variable {α : Type}

/-- A reply that arrives without delay. -/
def now (value : Except TransportError α) : Reply α := ⟨value, some 0⟩

end Reply

/-- A way of reaching a notary, with a state of some type. -/
structure Channel (σ : Type) where
  /-- Submits a transaction, to be sent to the observers once it is finalized. -/
  submit : σ → SignedTransaction → List Party → Reply Outcome × σ
  /-- Asks for the verdict on a transaction, if there is one. -/
  ask : σ → TransactionId → Reply (Option Outcome) × σ

namespace Channel

variable {σ τ : Type}

/-- A channel that uses the first part of a state and leaves the second as it is. -/
def first (channel : Channel σ) : Channel (σ × τ) where
  submit state signed observers :=
    let (reply, used) := channel.submit state.1 signed observers
    (reply, used, state.2)
  ask state id :=
    let (reply, used) := channel.ask state.1 id
    (reply, used, state.2)

/-- A channel that uses the second part of a state and leaves the first as it is. -/
def second (channel : Channel σ) : Channel (τ × σ) where
  submit state signed observers :=
    let (reply, used) := channel.submit state.2 signed observers
    (reply, state.1, used)
  ask state id :=
    let (reply, used) := channel.ask state.2 id
    (reply, state.1, used)

end Channel

end TokenLedger
