import TokenLedger.Party
/-!
What became of a transaction.

A submitted transaction is finalized, rejected for a reason, or its fate could not be learnt for a
cause. The lifecycle (`Stage`) leads from building over submission to one of these; finalized and
rejected are terminal, and only an unreachable notary lets a transaction be submitted again.
-/

namespace TokenLedger

/-- Why a notary refuses a transaction. -/
inductive RejectionReason where
  /-- These inputs are consumed by another finalized transaction. -/
  | doubleSpend (conflicts : List StateRef)
  | missingSignature (party : Party)
  | invalidSignature (party : Party)
  | windowExpired
  | windowNotYetValid
deriving DecidableEq, Repr

def RejectionReason.message : RejectionReason → String
  | .doubleSpend conflicts =>
    "inputs already consumed: " ++ String.intercalate ", " (conflicts.map StateRef.text)
  | .missingSignature party => "missing signature from " ++ party.text
  | .invalidSignature party => "invalid signature from " ++ party.text
  | .windowExpired => "time window has expired"
  | .windowNotYetValid => "time window is not yet valid"

/-- Why no verdict was obtained. -/
inductive UnreachableCause where
  | timeout
  | network (detail : String)
deriving DecidableEq, Repr

def UnreachableCause.message : UnreachableCause → String
  | .timeout => "timed out waiting for the notary"
  | .network detail => "network failure: " ++ detail

/-- The lifecycle of a transaction on its way to the ledger. -/
inductive Stage where
  | built
  | submitted
  | finalized
  | rejected
  | unreachable
deriving DecidableEq, Repr, Inhabited

namespace Stage

/-- The stage as one word. -/
def text : Stage → String
  | .built => "built"
  | .submitted => "submitted"
  | .finalized => "finalized"
  | .rejected => "rejected"
  | .unreachable => "unreachable"

/-- Whether a stage is never left again. -/
def isTerminal : Stage → Bool
  | .finalized | .rejected => true
  | .built | .submitted | .unreachable => false

/-- Whether one stage may follow another directly. -/
def canBecome : Stage → Stage → Bool
  | .built, .submitted => true
  | .submitted, .finalized | .submitted, .rejected | .submitted, .unreachable => true
  | .unreachable, .submitted => true
  | _, _ => false

/-- Nothing follows a terminal stage. -/
theorem canBecome_of_isTerminal {stage : Stage} (terminal : stage.isTerminal = true)
    (next : Stage) : stage.canBecome next = false := by
  cases stage <;> simp_all [isTerminal, canBecome]

end Stage

/-- The answer to a submission. -/
inductive Outcome where
  | finalized (transactionId : TransactionId)
  | rejected (reason : RejectionReason)
  /-- No verdict arrived; the transaction may be on the ledger or not. -/
  | unreachable (cause : UnreachableCause)
deriving DecidableEq, Repr

namespace Outcome

def isFinalized : Outcome → Bool
  | .finalized _ => true
  | .rejected _ | .unreachable _ => false

/-- Whether submitting the same transaction again can give another answer. -/
def isRetryable : Outcome → Bool
  | .unreachable _ => true
  | .finalized _ | .rejected _ => false

/-- The stage that a transaction is in after this answer. -/
def stage : Outcome → Stage
  | .finalized _ => .finalized
  | .rejected _ => .rejected
  | .unreachable _ => .unreachable

/-- An answer is final unless it can be retried. -/
theorem isTerminal_stage (outcome : Outcome) : outcome.stage.isTerminal = !outcome.isRetryable := by
  cases outcome <;> rfl

end Outcome

end TokenLedger
