import TokenLedger.Notary.ConsumedStates
import TokenLedger.Proposal.Validity
import TokenLedger.Signing.SignedTransaction
/-!
A notary that rules on signed transactions.

The notary checks in this order: the transaction is addressed to it, its proposal is acceptable, its
signatures are there and valid, its window contains the present time, and no input was consumed by
another transaction. The first two failures produce no verdict at all; the others are rejections.
A transaction that was finalized before gets the same answer again as soon as its signatures are
valid, whatever the time.

Finalized transactions are remembered for good, with the observers of the call that finalized them.
Of the rejections only the last is remembered, and never one of a finalized transaction.
-/

namespace TokenLedger

variable [SignatureScheme]

/-- Why a notary gives no verdict. -/
inductive NotaryError where
  | wrongNotary (requested actual : Party)
  | proposal (cause : ProposalError)
  | storage (detail : String)
  | context (detail : String)
deriving DecidableEq, Repr

def NotaryError.message : NotaryError → String
  | .wrongNotary requested actual =>
    "transaction is addressed to " ++ requested.text ++ ", this notary is " ++ actual.text
  | .proposal cause => "Malformed proposal: " ++ cause.message
  | .storage detail => "Storage error: " ++ detail
  | .context detail => detail

/-- The kind of the error in one word. -/
def NotaryError.kind : NotaryError → String
  | .wrongNotary _ _ => "WrongNotary"
  | .proposal _ => "Proposal"
  | .storage _ => "Storage"
  | .context _ => "Context"

/-- What is remembered about a transaction that was ruled on. -/
structure NotaryRecord where
  outcome : Outcome
  transaction : SignedTransaction
  /-- The parties that a finalized transaction was sent to. -/
  observers : List Party
deriving DecidableEq

/-- A notary and all it remembers. -/
structure Notary where
  identity : Party
  consumed : ConsumedStates
  finalized : SortedMap TransactionId NotaryRecord
  lastRejection : Option NotaryRecord
deriving DecidableEq

namespace Notary

/-- A notary that has not ruled on anything. -/
def fresh (identity : Party) : Notary := ⟨identity, .empty, .empty, none⟩

/-! ### What is remembered -/

/-- What is remembered about a transaction: its finalized record, else the last rejection if it was
of this transaction. -/
def record? (notary : Notary) (id : TransactionId) : Option NotaryRecord :=
  match notary.finalized.get? id with
  | some record => some record
  | none => notary.lastRejection.filter fun record => record.transaction.id == id

/-- The verdict on a transaction, if one is remembered. -/
def outcome? (notary : Notary) (id : TransactionId) : Option Outcome :=
  (notary.record? id).map NotaryRecord.outcome

/-- The record of a transaction that was finalized. -/
def finalized? (notary : Notary) (id : TransactionId) : Option NotaryRecord :=
  (notary.record? id).filter fun record => record.outcome.isFinalized

/-- The transaction that consumed a state. -/
def consumer? (notary : Notary) (state : StateRef) : Option TransactionId :=
  notary.consumed.consumer? state

/-! ### Ruling -/

/-- Remembers a verdict, unless the transaction was finalized before. -/
def remember (notary : Notary) (record : NotaryRecord) : Notary :=
  let id := record.transaction.id
  if notary.finalized.contains id then notary
  else if record.outcome.isFinalized then
    { notary with finalized := notary.finalized.insert id record }
  else { notary with lastRejection := some record }

/-- Refuses a transaction for a reason. -/
def reject (notary : Notary) (signed : SignedTransaction) (reason : RejectionReason) :
    Outcome × Notary :=
  (.rejected reason, notary.remember ⟨.rejected reason, signed, []⟩)

/-- Consumes the inputs of a transaction, and finalizes or refuses it. -/
def settle (notary : Notary) (signed : SignedTransaction) (observers : List Party) :
    Outcome × Notary :=
  match notary.consumed.commit signed.proposal.inputRefs signed.id with
  | (.committed, consumed) =>
    let outcome := Outcome.finalized signed.id
    (outcome, { notary with consumed }.remember ⟨outcome, signed, observers⟩)
  | (.conflict taken, _) => notary.reject signed (.doubleSpend taken)

/-- Rules on a transaction that is addressed to this notary and whose proposal is acceptable. -/
def rule (notary : Notary) (now : Instant) (signed : SignedTransaction) (observers : List Party) :
    Outcome × Notary :=
  match signed.verify with
  | .error reason => notary.reject signed reason
  | .ok () =>
    match notary.finalized? signed.id with
    | some record => (record.outcome, notary)
    | none =>
      match signed.proposal.timeWindow.check now with
      | .error reason => notary.reject signed reason
      | .ok () => notary.settle signed observers

/-- Rules on a signed transaction at a time; an error leaves the notary as it was. -/
def notarise (notary : Notary) (now : Instant) (signed : SignedTransaction)
    (observers : List Party) : Except NotaryError Outcome × Notary :=
  if signed.proposal.notary ≠ notary.identity then
    (.error (.wrongNotary signed.proposal.notary notary.identity), notary)
  else
    match signed.proposal.validate with
    | .error cause => (.error (.proposal cause), notary)
    | .ok () =>
      let (outcome, next) := notary.rule now signed observers
      (.ok outcome, next)

end Notary

end TokenLedger
