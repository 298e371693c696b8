import TokenLedger.Flow.Channel
/-!
A channel whose replies are written down beforehand.

Each submission takes the next of its replies and each question the next of its own. A reply gives
an outcome, an error, or no verdict: a question is then answered by "none", and a submission fails.
So does every call after the last reply.
-/

namespace TokenLedger

variable [SignatureScheme]

/-- What a call is answered with. -/
inductive ScriptedAnswer where
  | error (cause : TransportError)
  /-- The transaction that the call is about is finalized. -/
  | finalizedSelf
  | outcome (verdict : Outcome)
  | noVerdict

/-- An answer, and the milliseconds after which it arrives. -/
structure ScriptedReply where
  answer : ScriptedAnswer
  delay : Nat

/-- The replies that are still to come, and the number of submissions so far. -/
structure Script where
  submitReplies : List ScriptedReply
  askReplies : List ScriptedReply
  submissions : Nat

namespace ScriptedAnswer

/-- The answer about a transaction. -/
def about (id : TransactionId) : ScriptedAnswer → Except TransportError (Option Outcome)
  | .error cause => .error cause
  | .finalizedSelf => .ok (some (.finalized id))
  | .outcome verdict => .ok (some verdict)
  | .noVerdict => .ok none

end ScriptedAnswer

namespace Script

/-- The failure of every call after the last reply. -/
def exhausted : TransportError := .network "script exhausted"

/-- The verdict of an answer to a submission, which cannot do without. -/
def verdict : Except TransportError (Option Outcome) → Except TransportError Outcome
  | .ok (some outcome) => .ok outcome
  | .ok none => .error (.network "script has no verdict")
  | .error cause => .error cause

/-- Submits a transaction. -/
def submit (script : Script) (signed : SignedTransaction) (_ : List Party) :
    Reply Outcome × Script :=
  let script := { script with submissions := script.submissions + 1 }
  match script.submitReplies with
  | [] => (.now (.error exhausted), script)
  | reply :: rest =>
    (⟨verdict (reply.answer.about signed.id), some reply.delay⟩,
      { script with submitReplies := rest })

/-- Asks for the verdict on a transaction. -/
def ask (script : Script) (id : TransactionId) : Reply (Option Outcome) × Script :=
  match script.askReplies with
  | [] => (.now (.error exhausted), script)
  | reply :: rest => (⟨reply.answer.about id, some reply.delay⟩, { script with askReplies := rest })

/-- The script as a channel. -/
def channel : Channel Script := ⟨submit, ask⟩

end Script

end TokenLedger
