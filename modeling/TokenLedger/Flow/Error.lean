import TokenLedger.Flow.Membership
import TokenLedger.Signing.Signature
/-!
What can stop a mint flow.

Every error but one leaves no doubt about the ledger: the transaction was refused, or nothing was
submitted at all. Only when every attempt ended without a verdict is the outcome unknown; the error
then carries the id to ask about (`FlowError.outcomeKnown`).
-/

namespace TokenLedger

/-- Why a mint flow did not finish. -/
inductive FlowError where
  | invalidToken (cause : TokenError)
  | invalidProposal (cause : ProposalError)
  | signing (cause : SigningError)
  | rejected (transactionId : TransactionId) (reason : RejectionReason)
  /-- Somebody could not be looked up; nothing was built or submitted. -/
  | lookup (cause : LookupError)
  /-- Every attempt ended without a verdict; the cause is that of the last. -/
  | unreachable (cause : UnreachableCause) (transactionId : TransactionId) (attempts : Nat)
deriving DecidableEq, Repr

namespace FlowError

def message : FlowError → String
  | .invalidToken cause => "invalid token (" ++ cause.field ++ "): " ++ cause.message
  | .invalidProposal cause => "invalid proposal (" ++ cause.field ++ "): " ++ cause.message
  | .signing cause => "signing failed: " ++ cause.message
  | .rejected transactionId reason =>
    "transaction " ++ transactionId.toHex ++ " rejected: " ++ reason.message
  | .lookup cause => "lookup failed: " ++ cause.message
  | .unreachable cause transactionId attempts =>
    "notary unreachable after " ++ toString attempts ++ " attempts (" ++ cause.message
      ++ "); outcome of transaction " ++ transactionId.toHex ++ " unknown"

/-- Whether the caller knows what happened on the ledger. -/
def outcomeKnown : FlowError → Bool
  | .unreachable _ _ _ => false
  | .invalidToken _ | .invalidProposal _ | .signing _ | .rejected _ _ | .lookup _ => true

/-- The transaction whose fate the error describes. -/
def transactionId? : FlowError → Option TransactionId
  | .rejected transactionId _ | .unreachable _ transactionId _ => some transactionId
  | .invalidToken _ | .invalidProposal _ | .signing _ | .lookup _ => none

/-- The kind of the error as callers see it. -/
def kind : FlowError → String
  | .invalidToken _ => "InvalidTokenError"
  | .invalidProposal (.invalidWindow _ _) => "InvalidWindowError"
  | .invalidProposal _ => "InvalidProposalError"
  | .signing _ => "SigningError"
  | .rejected _ _ => "Rejected"
  | .lookup _ | .unreachable _ _ _ => "UpstreamUnavailable"

end FlowError

/-- An error as it is handed to a caller. -/
structure ErrorDetail where
  kind : String
  message : String
deriving DecidableEq, Repr, Inhabited

/-- The error of a flow as it is handed to a caller. -/
def FlowError.detail (error : FlowError) : ErrorDetail := ⟨error.kind, error.message⟩

end TokenLedger
