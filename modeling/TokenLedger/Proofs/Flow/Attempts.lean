import TokenLedger.Flow.Mint
import TokenLedger.Flow.Script
/-!
The attempts of the mint flow, over any channel.

The flow submits a transaction, waits for the reply, and tries again after a pause until a verdict
arrives or the attempts are used up. A channel may answer each submission as it likes: with a
verdict, with an error, with an outcome that is no verdict, or too late.

* `Finalizer.attempt` is what arrives in time after one submission, and the connection that is left;
* `MintFlow.afterFailures` is the connection after a number of attempts that brought no verdict and
  of the pauses that follow them, and `MintFlow.attemptAfter` the attempt that comes then;
* `MintFlow.Course` says how the flow ends when it makes so many attempts in vain and then one more:
  it answers what arrived at that last one, from which no pause follows.

`MintFlow.exists_course` finds the course of every loop by induction on the attempts that are left.
`MintFlow.finalize_attempts` draws the conclusion for a flow with settings that are within bounds,
on a channel that keeps a journal of what is submitted (`Channel.journaled`).
-/

namespace TokenLedger

variable {σ : Type}

/-! ### One attempt -/

section Attempt

variable [Timers]

/-- What is heard of a reply within a limit. -/
def Reply.within {α : Type} (reply : Reply α) (limit : Nat) : Option (Except TransportError α) :=
  match reply.delay with
  | some delay => if Timers.elapsed delay ≤ Timers.elapsed limit then some reply.value else none
  | none => none

theorem Reply.within_now {α : Type} (value : Except TransportError α) (limit : Nat) :
    (Reply.now value).within limit = some value := by
  simp [within, now]

/-- What is heard of a reply is its value. -/
theorem Reply.value_of_within {α : Type} {reply : Reply α} {limit : Nat}
    {value : Except TransportError α} (heard : reply.within limit = some value) :
    reply.value = value := by
  unfold within at heard
  split at heard
  · split at heard
    · exact Option.some.inj heard
    · cases heard
  · cases heard

section Await

variable {α : Type} (connection : Connection σ) (limit : Nat) (reply : Reply α)

theorem Connection.await_fst : (connection.await limit reply).1 = reply.within limit := by
  unfold await Reply.within
  cases reply.delay with
  | none => rfl
  | some delay =>
    dsimp only
    split <;> rfl

theorem Connection.state_await : (connection.await limit reply).2.state = connection.state := by
  unfold await
  split
  · split <;> rfl
  · rfl

end Await

namespace Finalizer

/-- What arrives within the limit after a submission, and the connection that is left. -/
def attempt (finalizer : Finalizer σ) (connection : Connection σ) (signed : SignedTransaction)
    (observers : List Party) : Option (Except TransportError Outcome) × Connection σ :=
  let (reply, state) := finalizer.channel.submit connection.state signed observers
  { connection with state }.await finalizer.timeout reply

/-- The outcome of an attempt is that of what arrived. -/
theorem finalize_eq (finalizer : Finalizer σ) (connection : Connection σ)
    (signed : SignedTransaction) (observers : List Party) :
    finalizer.finalize connection signed observers =
      (outcomeOf (finalizer.attempt connection signed observers).1,
        (finalizer.attempt connection signed observers).2) := rfl

variable (finalizer : Finalizer σ) (connection : Connection σ) (signed : SignedTransaction)
  (observers : List Party)

theorem attempt_fst :
    (finalizer.attempt connection signed observers).1 =
      (finalizer.channel.submit connection.state signed observers).1.within finalizer.timeout :=
  Connection.await_fst ..

theorem state_attempt :
    (finalizer.attempt connection signed observers).2.state =
      (finalizer.channel.submit connection.state signed observers).2 :=
  Connection.state_await ..

end Finalizer

end Attempt

/-! ### One attempt after the other -/

namespace MintFlow

/-- The answer of the flow after its last attempt, by the number of that attempt and what arrived at
it. -/
def answerTo (signed : SignedTransaction) (attempts : Nat) :
    Option (Except TransportError Outcome) → Except FlowError TransactionId
  | some (.ok (.finalized id)) => .ok id
  | some (.ok (.rejected reason)) => .error (.rejected signed.id reason)
  | some (.ok (.unreachable cause)) => .error (.unreachable cause signed.id attempts)
  | some (.error cause) => .error (.unreachable (.network cause.message) signed.id attempts)
  | none => .error (.unreachable .timeout signed.id attempts)

/-- The answer depends on the outcome alone. -/
theorem answerTo_eq (signed : SignedTransaction) (attempts : Nat)
    (arrived : Option (Except TransportError Outcome)) :
    answerTo signed attempts arrived =
      match Finalizer.outcomeOf arrived with
      | .finalized id => .ok id
      | .rejected reason => .error (.rejected signed.id reason)
      | .unreachable cause => .error (.unreachable cause signed.id attempts) := by
  match arrived with
  | some (.ok (.finalized _)) | some (.ok (.rejected _)) | some (.ok (.unreachable _)) => rfl
  | some (.error _) | none => rfl

/-- The flow answers an id only if a finalization arrived. -/
theorem answerTo_eq_ok_iff {signed : SignedTransaction} {attempts : Nat}
    {arrived : Option (Except TransportError Outcome)} {id : TransactionId} :
    answerTo signed attempts arrived = .ok id ↔ arrived = some (.ok (.finalized id)) := by
  unfold answerTo
  split <;> simp

/-- Every other answer is about the transaction. -/
theorem transactionId?_of_answerTo {signed : SignedTransaction} {attempts : Nat}
    {arrived : Option (Except TransportError Outcome)} {error : FlowError}
    (answered : answerTo signed attempts arrived = .error error) :
    error.transactionId? = some signed.id := by
  unfold answerTo at answered
  split at answered
  · cases answered
  all_goals
    cases answered
    rfl

/-- The milliseconds between the attempt with a number and the next one. -/
def pauseAfter (flow : MintFlow) (number : Nat) : Nat :=
  (flow.config.backoff.delayAfter (UInt32.ofNat number)).toNat

section Course

variable [Timers]
variable (flow : MintFlow) (channel : Channel σ) (signed : SignedTransaction)
  (observers : List Party) (connection : Connection σ)

/-- The connection after so many attempts that brought no verdict, with a pause after each. -/
def afterFailures : Nat → Connection σ
  | 0 => connection
  | failures + 1 =>
    ((flow.finalizer channel).attempt (afterFailures failures) signed observers).2.wait
      (flow.pauseAfter (failures + 1))

/-- The attempt that follows so many attempts without a verdict: what arrives at it, and the
connection that is left. -/
def attemptAfter (failures : Nat) : Option (Except TransportError Outcome) × Connection σ :=
  (flow.finalizer channel).attempt
    (flow.afterFailures channel signed observers connection failures) signed observers

/-- The attempt that follows so many attempts without a verdict brings none either. -/
def FailsAfter (failures : Nat) : Prop :=
  (Finalizer.outcomeOf
    (flow.attemptAfter channel signed observers connection failures).1).isRetryable = true

/-- The flow makes so many attempts without a verdict, and one more: it answers what arrived at that
one, and the connection is as that one leaves it. -/
structure Course (failures : Nat) (ending : Except FlowError TransactionId × Connection σ) :
    Prop where
  failed : ∀ earlier < failures, flow.FailsAfter channel signed observers connection earlier
  answer_eq : ending.1 = answerTo signed (failures + 1)
    (flow.attemptAfter channel signed observers connection failures).1
  connection_eq : ending.2 = (flow.attemptAfter channel signed observers connection failures).2

variable {flow channel signed observers connection}

/-- After an attempt that fails the loop pauses and goes on, if an attempt is left. -/
theorem submitFrom_of_failsAfter {failures : Nat}
    (fails : flow.FailsAfter channel signed observers connection failures) (left : Nat) :
    flow.submitFrom channel signed observers (failures + 1) (left + 1)
        (flow.afterFailures channel signed observers connection failures) =
      flow.submitFrom channel signed observers (failures + 2) left
        (flow.afterFailures channel signed observers connection (failures + 1)) := by
  unfold FailsAfter attemptAfter at fails
  rw [submitFrom, Finalizer.finalize_eq]
  dsimp only
  split
  · rename_i ended
    rw [ended] at fails
    cases fails
  · rename_i ended
    rw [ended] at fails
    cases fails
  · rename_i none_left
    cases none_left
  · rename_i some_left
    cases some_left
    rfl

/-- The loop ends with an attempt that brings a verdict or that is the last. -/
theorem submitFrom_of_ends {failures left : Nat}
    (ends : flow.FailsAfter channel signed observers connection failures → left = 0) :
    flow.submitFrom channel signed observers (failures + 1) left
        (flow.afterFailures channel signed observers connection failures) =
      (answerTo signed (failures + 1)
          (flow.attemptAfter channel signed observers connection failures).1,
        (flow.attemptAfter channel signed observers connection failures).2) := by
  unfold FailsAfter attemptAfter at ends
  rw [answerTo_eq, submitFrom, Finalizer.finalize_eq]
  dsimp only [attemptAfter]
  split
  · rename_i ended
    rw [ended]
  · rename_i ended
    rw [ended]
  · rename_i ended
    rw [ended]
  · rename_i ended
    rw [ended] at ends
    cases ends rfl

/-- **Every loop has a course**: from the attempt after a number of failures on, it goes on to the
first attempt that brings a verdict, or to the last one that is allowed. -/
theorem exists_course {failures : Nat} (left : Nat)
    (failed : ∀ earlier < failures, flow.FailsAfter channel signed observers connection earlier) :
    ∃ total ≤ failures + left,
      (flow.FailsAfter channel signed observers connection total → total = failures + left) ∧
      flow.Course channel signed observers connection total
        (flow.submitFrom channel signed observers (failures + 1) left
          (flow.afterFailures channel signed observers connection failures)) := by
  induction left generalizing failures with
  | zero =>
    refine ⟨failures, Nat.le_refl _, fun _ => rfl, failed, ?_, ?_⟩
    · rw [submitFrom_of_ends fun _ => rfl]
    · rw [submitFrom_of_ends fun _ => rfl]
  | succ left ih =>
    by_cases fails : flow.FailsAfter channel signed observers connection failures
    · have still : ∀ earlier < failures + 1,
          flow.FailsAfter channel signed observers connection earlier := by
        intro earlier before
        rcases Nat.lt_succ_iff_lt_or_eq.mp before with sooner | rfl
        · exact failed earlier sooner
        · exact fails
      obtain ⟨total, within, last, course⟩ := ih still
      rw [submitFrom_of_failsAfter fails]
      refine ⟨total, by omega, fun again => ?_, course⟩
      have := last again
      omega
    · have ends : flow.FailsAfter channel signed observers connection failures → left + 1 = 0 :=
        fun again => absurd again fails
      refine ⟨failures, by omega, fun again => absurd again fails, failed, ?_, ?_⟩
      · rw [submitFrom_of_ends ends]
      · rw [submitFrom_of_ends ends]

end Course

end MintFlow

/-! ### Settings -/

/-- Settings that are within bounds allow an attempt, and give it time. -/
theorem FlowConfig.pos_of_validate {config : FlowConfig} (valid : config.validate = .ok ()) :
    0 < config.maxAttempts.toNat ∧ 0 < config.timeoutMillis.toNat := by
  unfold validate at valid
  split at valid
  · cases valid
  rename_i attempts
  split at valid
  · cases valid
  rename_i timeout
  refine ⟨Nat.pos_of_ne_zero fun zero => attempts ?_, Nat.pos_of_ne_zero fun zero => timeout ?_⟩
  · exact UInt32.toNat_inj.mp zero
  · exact UInt64.toNat_inj.mp zero

/-! ### What is submitted -/

namespace Channel

/-- The channel that also keeps a journal of what is submitted over it, and to whom it is to be
sent. -/
def journaled (channel : Channel σ) : Channel (σ × List (SignedTransaction × List Party)) where
  submit state signed observers :=
    let (reply, used) := channel.submit state.1 signed observers
    (reply, used, state.2 ++ [(signed, observers)])
  ask state id :=
    let (reply, used) := channel.ask state.1 id
    (reply, used, state.2)

end Channel

namespace Connection

/-- The connection, with a journal beside its state. -/
def withJournal (connection : Connection σ) (journal : List (SignedTransaction × List Party)) :
    Connection (σ × List (SignedTransaction × List Party)) :=
  ⟨(connection.state, journal), connection.waited⟩

end Connection

section Journal

variable [Timers]

/-- An attempt writes one entry into the journal, and is otherwise as without one. -/
theorem Finalizer.attempt_journaled (channel : Channel σ) (timeout : Nat)
    (connection : Connection σ) (journal : List (SignedTransaction × List Party))
    (signed : SignedTransaction) (observers : List Party) :
    (Finalizer.mk channel.journaled timeout).attempt (connection.withJournal journal) signed
        observers =
      let (arrived, later) := (Finalizer.mk channel timeout).attempt connection signed observers
      (arrived, later.withJournal (journal ++ [(signed, observers)])) := by
  unfold attempt Connection.await Channel.journaled Connection.withJournal
  dsimp only
  split
  · split <;> rfl
  · rfl

namespace MintFlow

variable (flow : MintFlow) (channel : Channel σ) (signed : SignedTransaction)
  (observers : List Party) (connection : Connection σ)

/-- After so many failed attempts the journal has as many entries, all the same. -/
theorem afterFailures_journaled (failures : Nat) :
    flow.afterFailures channel.journaled signed observers (connection.withJournal []) failures =
      (flow.afterFailures channel signed observers connection failures).withJournal
        (List.replicate failures (signed, observers)) := by
  induction failures with
  | zero => rfl
  | succ failures ih =>
    rw [afterFailures, ih, finalizer, Finalizer.attempt_journaled, List.replicate_succ']
    rfl

theorem attemptAfter_journaled (failures : Nat) :
    flow.attemptAfter channel.journaled signed observers (connection.withJournal []) failures =
      let (arrived, later) := flow.attemptAfter channel signed observers connection failures
      (arrived, later.withJournal (List.replicate (failures + 1) (signed, observers))) := by
  rw [attemptAfter, afterFailures_journaled, finalizer, Finalizer.attempt_journaled,
    List.replicate_succ']
  rfl

/-- A journal changes nothing about which attempts fail. -/
theorem failsAfter_journaled (failures : Nat) :
    flow.FailsAfter channel.journaled signed observers (connection.withJournal []) failures ↔
      flow.FailsAfter channel signed observers connection failures := by
  rw [FailsAfter, attemptAfter_journaled]
  rfl

/-! ### The whole loop -/

/-- The flow has a course within its limit; it makes an attempt in any case. -/
theorem exists_course_finalize :
    ∃ failures ≤ flow.config.maxAttempts.toNat - 1,
      flow.Course channel signed observers connection failures
        (flow.finalize channel connection signed observers) ∧
      (flow.FailsAfter channel signed observers connection failures →
        failures = flow.config.maxAttempts.toNat - 1) := by
  have none_before : ∀ earlier < 0, flow.FailsAfter channel signed observers connection earlier :=
    fun earlier before => absurd before (Nat.not_lt_zero earlier)
  obtain ⟨failures, within, last, course⟩ :=
    exists_course (flow.config.maxAttempts.toNat - 1) none_before
  rw [Nat.zero_add] at within last
  exact ⟨failures, within, course, last⟩

variable {flow channel signed observers connection}

/-- There is one course only: the loop ends with the first attempt that brings a verdict, or with
the last that is allowed. -/
theorem course_finalize {failures : Nat} (within : failures ≤ flow.config.maxAttempts.toNat - 1)
    (failed : ∀ earlier < failures, flow.FailsAfter channel signed observers connection earlier)
    (last : flow.FailsAfter channel signed observers connection failures →
      failures = flow.config.maxAttempts.toNat - 1) :
    flow.Course channel signed observers connection failures
      (flow.finalize channel connection signed observers) := by
  obtain ⟨found, found_within, course, found_last⟩ :=
    flow.exists_course_finalize channel signed observers connection
  have same : found = failures := by
    rcases Nat.lt_trichotomy found failures with fewer | same | more
    · have := found_last (failed found fewer)
      omega
    · exact same
    · have := last (course.failed failures more)
      omega
  exact same ▸ course

variable (flow channel signed observers connection)

/-- The course of a flow and its journal: one entry per attempt, and nothing else is changed by
keeping it. -/
theorem exists_course_journaled :
    let ending := flow.finalize channel connection signed observers
    ∃ failures ≤ flow.config.maxAttempts.toNat - 1,
      flow.Course channel signed observers connection failures ending ∧
      (flow.FailsAfter channel signed observers connection failures →
        failures = flow.config.maxAttempts.toNat - 1) ∧
      flow.finalize channel.journaled (connection.withJournal []) signed observers =
        (ending.1, ending.2.withJournal (List.replicate (failures + 1) (signed, observers))) := by
  intro ending
  obtain ⟨failures, within, course, last⟩ :=
    flow.exists_course_finalize channel signed observers connection
  have written : flow.Course channel.journaled signed observers (connection.withJournal []) failures
      (flow.finalize channel.journaled (connection.withJournal []) signed observers) :=
    course_finalize within
      (fun earlier before => (failsAfter_journaled ..).mpr (course.failed earlier before))
      fun fails => last ((failsAfter_journaled ..).mp fails)
  refine ⟨failures, within, course, last, Prod.ext ?_ ?_⟩
  · rw [written.answer_eq, attemptAfter_journaled]
    exact course.answer_eq.symm
  · rw [written.connection_eq, attemptAfter_journaled]
    exact congrArg (Connection.withJournal · _) course.connection_eq.symm

/-- **The attempts of the flow, over any channel**, with settings that are within bounds. There is a
number of failures below the limit such that

* these attempts bring no verdict, and the next one brings a verdict or is the last that is allowed;
* the answer is what arrived at that attempt: the id that it finalized, its rejection of this
  transaction, or that the notary is unreachable after so many attempts, with the cause of this one;
* after each failed attempt comes the pause for its number, and none after the last attempt;
* what is submitted is this transaction with these observers, once per attempt and nothing else;
* every attempt has a number that thirty-two bits can hold. -/
theorem finalize_attempts (valid : flow.config.validate = .ok ()) :
    let limit := flow.config.maxAttempts.toNat
    let ending := flow.finalize channel connection signed observers
    ∃ failures < limit,
      flow.Course channel signed observers connection failures ending ∧
      (flow.FailsAfter channel signed observers connection failures → failures + 1 = limit) ∧
      flow.finalize channel.journaled (connection.withJournal []) signed observers =
        (ending.1, ending.2.withJournal (List.replicate (failures + 1) (signed, observers))) ∧
      ∀ number ≤ failures + 1, (UInt32.ofNat number).toNat = number := by
  intro limit ending
  have allowed : 0 < limit := (FlowConfig.pos_of_validate valid).1
  have fits : limit < UInt32.size := flow.config.maxAttempts.toNat_lt
  obtain ⟨failures, within, course, last, journal_eq⟩ :=
    flow.exists_course_journaled channel signed observers connection
  refine ⟨failures, Nat.lt_of_le_sub_one allowed within, course, fun fails => ?_, journal_eq,
    fun number bounded => ?_⟩
  · rw [last fails]
    exact Nat.sub_add_cancel allowed
  · exact UInt32.toNat_ofNat_of_lt' (by omega)

end MintFlow

end Journal

/-! A channel that fails, stays silent beyond the limit, and then brings a rejection, which is the
last attempt that the flow may make. -/

namespace Troubled

def member : Party := ⟨⟨"CN=Alice"⟩, ⟨.replicate 2⟩⟩

def flow : MintFlow where
  membership := .alone ⟨member.name, [member.key]⟩
  notaries := [⟨⟨"CN=Notary"⟩, ⟨.replicate 1⟩⟩]
  keys := .empty
  config := ⟨86400, 30000, 3, .fixed 500⟩

def script : Script where
  submitReplies := [⟨.error (.network "reset"), 10⟩, ⟨.finalizedSelf, 30001⟩,
    ⟨.outcome (.rejected .windowExpired), 20⟩, ⟨.finalizedSelf, 0⟩]
  askReplies := []
  submissions := 0

def transaction : SignedTransaction :=
  .unsigned (Draft.empty.assemble member ⟨.epoch, .epoch⟩)

def ending : Except FlowError TransactionId × Connection Script :=
  flow.finalize Script.channel ⟨script, 0⟩ transaction [member]

theorem valid : flow.config.validate = .ok () := rfl

end Troubled

open Troubled in
theorem MintFlow.finalize_attempts_troubled :
    flow.config.validate = .ok () ∧
      ending.1 = .error (.rejected transaction.id .windowExpired) ∧
      ending.2.waited = 10 + 500 + 30000 + 500 + 20 ∧
      ∃ failures < 3,
        flow.Course Script.channel transaction [member] ⟨script, 0⟩ failures ending ∧
        (flow.FailsAfter Script.channel transaction [member] ⟨script, 0⟩ failures →
          failures + 1 = 3) ∧
        flow.finalize Script.channel.journaled (Connection.withJournal ⟨script, 0⟩ []) transaction
            [member] =
          (ending.1, ending.2.withJournal
            (List.replicate (failures + 1) (transaction, [member]))) ∧
        ∀ number ≤ failures + 1, (UInt32.ofNat number).toNat = number :=
  ⟨valid, rfl, rfl, finalize_attempts flow Script.channel transaction [member] ⟨script, 0⟩ valid⟩

end TokenLedger
