import TokenLedger.Flow.Channel
import TokenLedger.Flow.Timers
/-!
Submitting under a time limit.

A finalizer turns whatever happens on a channel into an outcome: a verdict that arrives in time is
the outcome; an error, or no reply in time, makes the notary unreachable. A reply is in time if the
wait for it ends no later than a wait for the limit. A submission that is given up is not taken
back: the notary may have ruled on it, and the channel's state shows what it did.
-/

namespace TokenLedger

variable [Timers]

/-- The state of a channel, and the milliseconds that were waited on it so far. -/
structure Connection (σ : Type) where
  state : σ
  waited : Nat

namespace Connection

variable {σ α : Type}

/-- The connection after waiting. -/
def wait (connection : Connection σ) (millis : Nat) : Connection σ :=
  { connection with waited := connection.waited + Timers.elapsed millis }

/-- Waits for a reply, but no longer than the limit; `none` if it does not arrive in time. -/
def await (connection : Connection σ) (limit : Nat) (reply : Reply α) :
    Option (Except TransportError α) × Connection σ :=
  match reply.delay with
  | some delay =>
    if Timers.elapsed delay ≤ Timers.elapsed limit then (some reply.value, connection.wait delay)
    else (none, connection.wait limit)
  | none => (none, connection.wait limit)

end Connection

/-- A channel, and the milliseconds that a reply may take. -/
structure Finalizer (σ : Type) where
  channel : Channel σ
  timeout : Nat

namespace Finalizer

variable {σ : Type}

/-- The outcome of a submission that ended in this way. -/
def outcomeOf : Option (Except TransportError Outcome) → Outcome
  | some (.ok outcome) => outcome
  | some (.error cause) => .unreachable (.network cause.message)
  | none => .unreachable .timeout

/-- Submits a transaction and waits for the verdict within the limit. -/
def finalize (finalizer : Finalizer σ) (connection : Connection σ) (signed : SignedTransaction)
    (observers : List Party) : Outcome × Connection σ :=
  let (reply, state) := finalizer.channel.submit connection.state signed observers
  let (ending, connection) := { connection with state }.await finalizer.timeout reply
  (outcomeOf ending, connection)

/-- Asks for the verdict on a transaction; none if the notary never ruled on it or cannot be
asked. -/
def query (finalizer : Finalizer σ) (connection : Connection σ) (id : TransactionId) :
    Option Outcome × Connection σ :=
  let (reply, state) := finalizer.channel.ask connection.state id
  let (ending, connection) := { connection with state }.await finalizer.timeout reply
  match ending with
  | some (.ok outcome) => (outcome, connection)
  | some (.error _) | none => (none, connection)

end Finalizer

end TokenLedger
