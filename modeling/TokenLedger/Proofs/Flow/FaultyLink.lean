import TokenLedger.Proofs.Flow.Attempts
import TokenLedger.Proofs.Flow.KnownOutcome
import TokenLedger.Proofs.Notary.Frame
/-!
Attempts over a link that fails and delays.

Submissions over a link to a notary may fail before they reach it, because the network is
partitioned or because failures are planned, and the verdict of one that reaches it may come too
late. The flow then submits again, and the notary rules again, on the same transaction at the same
time. That changes nothing:

* `Notary.Consistent.repeated`: the same submission right after itself takes the same step, with the
  same answer, and leaves the notary where it is;
* `LocalLink.afterSubmissions` and `LocalLink.replyAfter` are what becomes of a link after a number
  of equal submissions and how it replies to the next, in closed form
  (`LocalLink.submit_afterSubmissions`).

So `MintFlow.finalize_faulty_link`: however often the flow submits, the notary ends up as one call
leaves it, or as it was if no submission reaches it; and the answer is that of this one call, unless
it came too late or was none.
-/

namespace TokenLedger

/-! ### The same submission again -/

namespace Notary

/-- Remembering a verdict twice is remembering it once. -/
theorem remember_remember (notary : Notary) (record : NotaryRecord) :
    (notary.remember record).remember record = notary.remember record := by
  by_cases known : notary.finalized.contains record.transaction.id = true
  · rw [remember_of_contains known, remember_of_contains known]
  · have new : notary.finalized.get? record.transaction.id = none := by
      rw [← Option.isNone_iff_eq_none, ← Option.isSome_eq_false_iff]
      exact Bool.not_eq_true _ ▸ known
    by_cases finalized : record.outcome.isFinalized = true
    · rw [remember_of_isFinalized new finalized]
      refine remember_of_contains ?_
      rw [SortedMap.contains, SortedMap.get?_insert_self, Option.isSome_some]
    · have rejected : record.outcome.isFinalized = false := Bool.not_eq_true _ ▸ finalized
      rw [remember_of_rejected new rejected]
      exact remember_of_rejected new rejected

variable [SignatureScheme] {notary next : Notary} {submission : Submission}
  {result : Except NotaryError Outcome}

/-- What a transaction is refused for, it is refused for again after a rejection. -/
theorem Consistent.refusal_remember (consistent : Consistent notary)
    {reason given : RejectionReason} (refusal : Refusal notary submission reason)
    (signed : SignedTransaction) :
    Refusal (notary.remember ⟨.rejected given, signed, []⟩) submission reason := by
  have later := consistent.remember_rejected given signed
  have still : ∀ id, notary.finalized? id = none →
      (notary.remember ⟨.rejected given, signed, []⟩).finalized? id = none := by
    intro id unseen
    rw [later.finalized?_eq, finalized_remember_of_not_isFinalized rfl, ← consistent.finalized?_eq]
    exact unseen
  cases refusal with
  | unsigned failed => exact .unsigned failed
  | untimely verified unseen failed => exact .untimely verified (still _ unseen) failed
  | conflicting verified unseen timely taken =>
    rw [← consumed_remember notary ⟨.rejected given, signed, []⟩] at taken ⊢
    exact .conflicting verified (still _ unseen) timely taken

/-- **The same submission right after itself takes the same step**, and leaves the notary where it
is. -/
theorem Consistent.repeated (consistent : Consistent notary)
    (taken : Step notary submission result next) : Step next submission result next := by
  have later := consistent.step taken
  cases taken with
  | misaddressed elsewhere => exact .misaddressed elsewhere
  | unacceptable addressed invalid => exact .unacceptable addressed invalid
  | replayed admissible found => exact .replayed admissible found
  | @refused reason addressed acceptable refusal =>
    have name := identity_remember notary ⟨.rejected reason, submission.signed, []⟩
    have again := Step.refused (addressed.trans name.symm) acceptable
      (consistent.refusal_remember refusal submission.signed)
    rw [remember_remember] at again
    exact again
  | settled admissible unseen =>
    -- this time the transaction is finalized, and the answer is read back from its record
    have name : (notary.finalize submission).identity = notary.identity := identity_remember _ _
    have found : (notary.finalize submission).finalized? submission.signed.id =
        some ⟨.finalized submission.signed.id, submission.signed, submission.observers⟩ := by
      rw [later.finalized?_eq, consistent.finalize_eq unseen]
      exact SortedMap.get?_insert_self _ _ _
    exact Step.replayed (name.symm ▸ admissible) found

/-- A notary that was asked once answers the same again, and stays as it is. -/
theorem Consistent.notarise_repeated (consistent : Consistent notary) (now : Instant)
    (signed : SignedTransaction) (observers : List Party) :
    (notary.notarise now signed observers).2.notarise now signed observers =
      notary.notarise now signed observers :=
  (consistent.repeated (notary.step ⟨now, signed, observers⟩)).notarise_eq

end Notary

/-! ### Equal submissions over a link -/

section Scheme

variable [SignatureScheme]

namespace LocalLink

section Submissions

variable (link : LocalLink) (now : Instant) (signed : SignedTransaction) (observers : List Party)

/-- The link after a number of submissions of one transaction at one time. -/
def afterSubmissions (count : Nat) : LocalLink :=
  if link.partitioned then { link with submissions := link.submissions + count }
  else
    { link with
      notary :=
        if count ≤ link.failures then link.notary
        else (link.notary.notarise now signed observers).2
      failures := link.failures - count
      submissions := link.submissions + count }

/-- The reply to one more submission of the transaction after so many. -/
def replyAfter (count : Nat) : Reply Outcome :=
  if link.partitioned then .now (.error link.noRoute)
  else if count < link.failures then .now (.error (.network "connection reset"))
  else
    match (link.notary.notarise now signed observers).1 with
    | .error cause => .now (.error (.notary cause))
    | .ok outcome => ⟨.ok outcome, some link.delay⟩

theorem afterSubmissions_zero : link.afterSubmissions now signed observers 0 = link := by
  unfold afterSubmissions
  split
  · rfl
  · rfl

/-- **Equal submissions go on as the closed form says.** -/
theorem submit_afterSubmissions (consistent : link.notary.Consistent) (count : Nat) :
    (link.afterSubmissions now signed observers count).submit now signed observers =
      (link.replyAfter now signed observers count,
        link.afterSubmissions now signed observers (count + 1)) := by
  unfold afterSubmissions replyAfter
  cases partitioned : link.partitioned with
  | true =>
    simp [submit, noRoute, Nat.add_assoc]
  | false =>
    by_cases planned : count < link.failures
    · -- one of the planned failures is used up
      obtain ⟨left, left_eq⟩ : ∃ left, link.failures - count = left + 1 :=
        ⟨link.failures - count - 1, by omega⟩
      have within : count ≤ link.failures := Nat.le_of_lt planned
      have next : link.failures - (count + 1) = left := by omega
      simp [submit, pass, planned, within, left_eq, next, Nat.succ_le_of_lt planned,
        Nat.add_assoc]
    · have used_up : link.failures - count = 0 := by omega
      have next : link.failures - (count + 1) = 0 := by omega
      have reached : ¬ count + 1 ≤ link.failures := by omega
      -- the notary rules, for the first time or on what it ruled on before
      have ruled : (if count ≤ link.failures then link.notary
            else (link.notary.notarise now signed observers).2).notarise now signed observers =
          link.notary.notarise now signed observers := by
        split
        · rfl
        · exact consistent.notarise_repeated now signed observers
      simp only [submit, pass, planned, used_up, next, reached, ruled, Bool.false_eq_true, if_false,
        Nat.add_assoc]
      rcases link.notary.notarise now signed observers with ⟨cause | outcome, later⟩
      · rfl
      · rfl

end Submissions

section Regions

variable {link : LocalLink} (now : Instant) (signed : SignedTransaction) (observers : List Party)

theorem afterSubmissions_of_partitioned (count : Nat) (partitioned : link.partitioned = true) :
    link.afterSubmissions now signed observers count =
      { link with submissions := link.submissions + count } :=
  if_pos partitioned

variable {count : Nat} (connected : link.partitioned = false)
include connected

/-- As long as failures are planned, submissions use them up and do not reach the notary. -/
theorem afterSubmissions_of_le (planned : count ≤ link.failures) :
    link.afterSubmissions now signed observers count =
      { link with
        failures := link.failures - count
        submissions := link.submissions + count } := by
  rw [afterSubmissions, connected, if_neg Bool.false_ne_true, if_pos planned]

/-- Once a submission has reached the notary, the notary is as this one left it. -/
theorem afterSubmissions_of_lt (reached : link.failures < count) :
    link.afterSubmissions now signed observers count =
      { link with
        notary := (link.notary.notarise now signed observers).2
        failures := 0
        submissions := link.submissions + count } := by
  have used_up : link.failures - count = 0 := Nat.sub_eq_zero_of_le (Nat.le_of_lt reached)
  rw [afterSubmissions, connected, if_neg Bool.false_ne_true, if_neg (Nat.not_le.mpr reached),
    used_up]

end Regions

end LocalLink

/-! ### What the flow hears -/

namespace MintFlow

variable [Timers]

section Heard

variable (flow : MintFlow) (link : LocalLink) (now : Instant) (signed : SignedTransaction)
  (observers : List Party)

/-- What the flow hears in time of one more submission over a link after so many equal ones. -/
def heardAfter (count : Nat) : Option (Except TransportError Outcome) :=
  (link.replyAfter now signed observers count).within flow.config.timeoutMillis.toNat

variable {link}

theorem heardAfter_of_partitioned (partitioned : link.partitioned = true) (count : Nat) :
    flow.heardAfter link now signed observers count = some (.error link.noRoute) := by
  rw [heardAfter, LocalLink.replyAfter, if_pos partitioned, Reply.within_now]

variable {count : Nat} (connected : link.partitioned = false)
include connected

theorem heardAfter_of_lt (planned : count < link.failures) :
    flow.heardAfter link now signed observers count =
      some (.error (.network "connection reset")) := by
  rw [heardAfter, LocalLink.replyAfter, connected, if_neg Bool.false_ne_true, if_pos planned,
    Reply.within_now]

theorem heardAfter_of_error (reached : link.failures ≤ count) {cause : NotaryError}
    (ruled : (link.notary.notarise now signed observers).1 = .error cause) :
    flow.heardAfter link now signed observers count = some (.error (.notary cause)) := by
  rw [heardAfter, LocalLink.replyAfter, connected, if_neg Bool.false_ne_true,
    if_neg (Nat.not_lt.mpr reached), ruled]
  exact Reply.within_now _ _

theorem heardAfter_of_ok (reached : link.failures ≤ count) {outcome : Outcome}
    (ruled : (link.notary.notarise now signed observers).1 = .ok outcome) :
    flow.heardAfter link now signed observers count =
      if Timers.elapsed link.delay ≤ Timers.elapsed flow.config.timeoutMillis.toNat then
        some (.ok outcome)
      else none := by
  rw [heardAfter, LocalLink.replyAfter, connected, if_neg Bool.false_ne_true,
    if_neg (Nat.not_lt.mpr reached), ruled]
  rfl

end Heard

/-! ### The attempts of the flow -/

variable {flow : MintFlow} {connection : Connection LocalLink} (now : Instant)
  (signed : SignedTransaction) (observers : List Party)

section Attempts

variable (flow)
variable (consistent : connection.state.notary.Consistent)
include consistent

/-- After so many failed attempts the link is as after so many submissions. -/
theorem state_afterFailures (failures : Nat) :
    (flow.afterFailures (LocalLink.channel now) signed observers connection failures).state =
      connection.state.afterSubmissions now signed observers failures := by
  induction failures with
  | zero => exact (LocalLink.afterSubmissions_zero _ _ _ _).symm
  | succ failures ih =>
    rw [afterFailures, Connection.wait, Finalizer.state_attempt, ih]
    exact congrArg Prod.snd (LocalLink.submit_afterSubmissions _ _ _ _ consistent failures)

/-- What is heard at an attempt, and the link after it. -/
theorem attemptAfter_link (failures : Nat) :
    let attempt := flow.attemptAfter (LocalLink.channel now) signed observers connection failures
    attempt.1 = flow.heardAfter connection.state now signed observers failures ∧
      attempt.2.state = connection.state.afterSubmissions now signed observers (failures + 1) := by
  have submitted := LocalLink.submit_afterSubmissions _ now signed observers consistent failures
  dsimp only
  rw [attemptAfter, Finalizer.attempt_fst, Finalizer.state_attempt,
    state_afterFailures flow now signed observers consistent]
  refine ⟨?_, congrArg Prod.snd submitted⟩
  exact congrArg (fun sent : Reply Outcome × LocalLink => sent.1.within _) submitted

variable {flow}

/-- The flow ends as after the first attempt at which it hears a verdict, or after the last that is
allowed. -/
theorem finalize_link {failures : Nat} (within : failures < flow.config.maxAttempts.toNat)
    (failed : ∀ earlier < failures, (Finalizer.outcomeOf
      (flow.heardAfter connection.state now signed observers earlier)).isRetryable = true)
    (last : (Finalizer.outcomeOf
        (flow.heardAfter connection.state now signed observers failures)).isRetryable = true →
      failures + 1 = flow.config.maxAttempts.toNat) :
    let ending := flow.finalize (LocalLink.channel now) connection signed observers
    ending.1 = answerTo signed (failures + 1)
        (flow.heardAfter connection.state now signed observers failures) ∧
      ending.2.state = connection.state.afterSubmissions now signed observers (failures + 1) := by
  have attempt_eq := attemptAfter_link flow now signed observers consistent
  have course : flow.Course (LocalLink.channel now) signed observers connection failures
      (flow.finalize (LocalLink.channel now) connection signed observers) := by
    refine course_finalize (Nat.le_sub_one_of_lt within) (fun earlier before => ?_) fun fails => ?_
    · rw [FailsAfter, (attempt_eq _).1]
      exact failed earlier before
    · rw [FailsAfter, (attempt_eq _).1] at fails
      rw [← last fails, Nat.add_sub_cancel]
  obtain ⟨heard, state_eq⟩ := attempt_eq failures
  rw [← heard, ← state_eq]
  exact ⟨course.answer_eq, congrArg _ course.connection_eq⟩

/-- A flow that never hears a verdict makes all attempts that are allowed. -/
theorem finalize_link_of_no_verdict (allowed : 0 < flow.config.maxAttempts.toNat)
    (failed : ∀ count < flow.config.maxAttempts.toNat, (Finalizer.outcomeOf
      (flow.heardAfter connection.state now signed observers count)).isRetryable = true) :
    let limit := flow.config.maxAttempts.toNat
    let ending := flow.finalize (LocalLink.channel now) connection signed observers
    ending.1 = answerTo signed limit
        (flow.heardAfter connection.state now signed observers (limit - 1)) ∧
      ending.2.state = connection.state.afterSubmissions now signed observers limit := by
  intro limit ending
  have last : limit - 1 + 1 = limit := Nat.sub_add_cancel allowed
  have ended := finalize_link now signed observers consistent (Nat.sub_one_lt_of_lt allowed)
    (fun earlier before => failed earlier (by omega)) fun _ => last
  rw [last] at ended
  exact ended

/-- Over a partitioned link all attempts fail. -/
theorem finalize_of_partitioned (allowed : 0 < flow.config.maxAttempts.toNat)
    (partitioned : connection.state.partitioned = true) :
    let limit := flow.config.maxAttempts.toNat
    let ending := flow.finalize (LocalLink.channel now) connection signed observers
    ending.1 = .error (.unreachable (.network connection.state.noRoute.message) signed.id limit) ∧
      ending.2.state = connection.state.afterSubmissions now signed observers limit := by
  intro limit ending
  have heard := flow.heardAfter_of_partitioned now signed observers partitioned
  obtain ⟨answer_eq, state_eq⟩ :=
    finalize_link_of_no_verdict now signed observers consistent allowed fun count _ => by
      rw [heard]
      rfl
  rw [heard] at answer_eq
  exact ⟨answer_eq, state_eq⟩

variable (connected : connection.state.partitioned = false)
include connected

/-- If the planned failures outlast the attempts, all attempts fail. -/
theorem finalize_of_le_failures (allowed : 0 < flow.config.maxAttempts.toNat)
    (outlasted : flow.config.maxAttempts.toNat ≤ connection.state.failures) :
    let limit := flow.config.maxAttempts.toNat
    let ending := flow.finalize (LocalLink.channel now) connection signed observers
    ending.1 =
        .error (.unreachable (.network "network error: connection reset") signed.id limit) ∧
      ending.2.state = connection.state.afterSubmissions now signed observers limit := by
  intro limit ending
  have heard : ∀ count < limit, flow.heardAfter connection.state now signed observers count =
      some (.error (.network "connection reset")) := fun count within =>
    flow.heardAfter_of_lt now signed observers connected (Nat.lt_of_lt_of_le within outlasted)
  obtain ⟨answer_eq, state_eq⟩ :=
    finalize_link_of_no_verdict now signed observers consistent allowed fun count within => by
      rw [heard count within]
      rfl
  rw [heard (limit - 1) (Nat.sub_one_lt_of_lt allowed)] at answer_eq
  exact ⟨answer_eq, state_eq⟩

variable (reached : connection.state.failures < flow.config.maxAttempts.toNat)
include reached

/-- If what is heard after the planned failures is always the same and no verdict, all attempts
fail. -/
theorem finalize_of_no_verdict {arrived : Option (Except TransportError Outcome)}
    (heard : ∀ count, connection.state.failures ≤ count →
      flow.heardAfter connection.state now signed observers count = arrived)
    (retryable : (Finalizer.outcomeOf arrived).isRetryable = true) :
    let limit := flow.config.maxAttempts.toNat
    let ending := flow.finalize (LocalLink.channel now) connection signed observers
    ending.1 = answerTo signed limit arrived ∧
      ending.2.state = connection.state.afterSubmissions now signed observers limit := by
  intro limit ending
  have allowed : 0 < limit := Nat.zero_lt_of_lt reached
  obtain ⟨answer_eq, state_eq⟩ :=
    finalize_link_of_no_verdict now signed observers consistent allowed fun count _ => by
      by_cases planned : count < connection.state.failures
      · rw [flow.heardAfter_of_lt now signed observers connected planned]
        rfl
      · rw [heard count (Nat.not_lt.mp planned)]
        exact retryable
  rw [heard (limit - 1) (Nat.le_sub_one_of_lt reached)] at answer_eq
  exact ⟨answer_eq, state_eq⟩

/-- A verdict in time ends the attempts right after the planned failures. -/
theorem finalize_of_verdict {outcome : Outcome}
    (ruled : (connection.state.notary.notarise now signed observers).1 = .ok outcome)
    (verdict : outcome.isRetryable = false)
    (inTime : Timers.elapsed connection.state.delay ≤
      Timers.elapsed flow.config.timeoutMillis.toNat) :
    let ending := flow.finalize (LocalLink.channel now) connection signed observers
    let count := connection.state.failures + 1
    ending.1 = answerTo signed count (some (.ok outcome)) ∧
      ending.2.state = connection.state.afterSubmissions now signed observers count := by
  intro ending count
  have heard := flow.heardAfter_of_ok now signed observers connected (Nat.le_refl _) ruled
  rw [if_pos inTime] at heard
  have failed : ∀ earlier < connection.state.failures, (Finalizer.outcomeOf
      (flow.heardAfter connection.state now signed observers earlier)).isRetryable = true := by
    intro earlier planned
    rw [flow.heardAfter_of_lt now signed observers connected planned]
    rfl
  obtain ⟨answer_eq, state_eq⟩ :=
    finalize_link now signed observers consistent reached failed fun fails => by
      rw [heard, Finalizer.outcomeOf, verdict] at fails
      cases fails
  rw [heard] at answer_eq
  exact ⟨answer_eq, state_eq⟩

end Attempts

/-- **A flow over a link with trouble does what one call to the notary does**, or nothing, at
settings within bounds and on every link that can come about.

* Whether a verdict is in time is whether its delay is within the limit, if waits for the one and
  the other end at their deadlines.
* Over a partitioned link all submissions are made in vain, and only their number changes.
* Otherwise the planned failures are used up first, without the notary. If they outlast the
  attempts, nothing else happens.
* If they do not, the notary ends up as one call leaves it. The answer is the verdict of this call,
  one submission after the planned failures, if it is one and in time. A verdict that is late, or a
  failure of the notary, comes back at all the other submissions too, which are all made.
-/
theorem finalize_faulty_link (flow : MintFlow) (valid : flow.config.validate = .ok ())
    {connection : Connection LocalLink} (reachable : connection.state.Reachable) (now : Instant)
    (signed : SignedTransaction) (observers : List Party) :
    let link := connection.state
    let limit := flow.config.maxAttempts.toNat
    let timeout := flow.config.timeoutMillis.toNat
    let ending := flow.finalize (LocalLink.channel now) connection signed observers
    let attempt := flow.attemptAfter (LocalLink.channel now) signed observers connection
    let ruling := link.notary.notarise now signed observers
    let ruledAfter := fun count =>
      { link with notary := ruling.2, failures := 0, submissions := link.submissions + count }
    let inTime := Timers.elapsed link.delay ≤ Timers.elapsed timeout
    (Timers.Punctual link.delay → Timers.Punctual timeout →
      (inTime ↔ link.delay ≤ timeout)) ∧
    (link.partitioned = true →
      ending.1 = .error (.unreachable (.network link.noRoute.message) signed.id limit) ∧
      ending.2.state = { link with submissions := link.submissions + limit }) ∧
    (link.partitioned = false →
      (∀ earlier < min link.failures limit,
        (attempt earlier).1 = some (.error (.network "connection reset")) ∧
        (attempt earlier).2.state =
          { link with
            failures := link.failures - (earlier + 1)
            submissions := link.submissions + (earlier + 1) }) ∧
      (limit ≤ link.failures →
        ending.1 = .error (.unreachable (.network "network error: connection reset") signed.id
          limit) ∧
        ending.2.state =
          { link with
            failures := link.failures - limit
            submissions := link.submissions + limit }) ∧
      (link.failures < limit →
        (∀ outcome, ruling.1 = .ok outcome →
          (∃ reason, outcome = .rejected reason) ∨ outcome = .finalized signed.id) ∧
        (∀ id, ruling.1 = .ok (.finalized id) → inTime →
          ending.1 = .ok id ∧ ending.2.state = ruledAfter (link.failures + 1)) ∧
        (∀ reason, ruling.1 = .ok (.rejected reason) → inTime →
          ending.1 = .error (.rejected signed.id reason) ∧
          ending.2.state = ruledAfter (link.failures + 1)) ∧
        (∀ outcome, ruling.1 = .ok outcome → ¬inTime →
          ending.1 = .error (.unreachable .timeout signed.id limit) ∧
          ending.2.state = ruledAfter limit) ∧
        (∀ cause, ruling.1 = .error cause →
          ending.1 = .error (.unreachable (.network (TransportError.notary cause).message) signed.id
            limit) ∧
          ending.2.state = ruledAfter limit))) := by
  intro link limit timeout ending attempt ruling ruledAfter inTime
  have consistent : link.notary.Consistent := reachable.consistent
  have allowed : 0 < limit := (FlowConfig.pos_of_validate valid).1
  refine ⟨fun delay_ends timeout_ends => ?_, fun partitioned => ?_,
    fun connected => ⟨?_, ?_, fun reached => ?_⟩⟩
  · exact delay_ends.elapsed_le_iff timeout_ends
  · rw [← LocalLink.afterSubmissions_of_partitioned now signed observers limit partitioned]
    exact finalize_of_partitioned now signed observers consistent allowed partitioned
  · intro earlier planned
    have before : earlier < link.failures := Nat.lt_of_lt_of_le planned (Nat.min_le_left _ _)
    obtain ⟨heard, state_eq⟩ :=
      attemptAfter_link flow now signed observers consistent earlier
    rw [flow.heardAfter_of_lt now signed observers connected before] at heard
    rw [LocalLink.afterSubmissions_of_le now signed observers connected before] at state_eq
    exact ⟨heard, state_eq⟩
  · intro outlasted
    rw [← LocalLink.afterSubmissions_of_le now signed observers connected outlasted]
    exact finalize_of_le_failures now signed observers consistent connected allowed outlasted
  have ruled_eq : ∀ count, link.failures < count →
      link.afterSubmissions now signed observers count = ruledAfter count := fun count more =>
    LocalLink.afterSubmissions_of_lt now signed observers connected more
  rw [← ruled_eq limit reached, ← ruled_eq (link.failures + 1) (Nat.lt_succ_self _)]
  refine ⟨fun outcome ruled => ?_, fun id ruled soon => ?_, fun reason ruled soon => ?_,
    fun outcome ruled late => ?_, fun cause ruled => ?_⟩
  · have taken : link.notary.Step ⟨now, signed, observers⟩ ruling.1 ruling.2 :=
      link.notary.step ⟨now, signed, observers⟩
    rw [ruled] at taken
    exact consistent.verdict_cases taken
  · exact finalize_of_verdict now signed observers consistent connected reached ruled rfl soon
  · exact finalize_of_verdict now signed observers consistent connected reached ruled rfl soon
  · have heard : ∀ count, link.failures ≤ count →
        flow.heardAfter link now signed observers count = none := by
      intro count more
      rw [flow.heardAfter_of_ok now signed observers connected more ruled]
      exact if_neg late
    exact finalize_of_no_verdict now signed observers consistent connected reached heard rfl
  · have heard : ∀ count, link.failures ≤ count →
        flow.heardAfter link now signed observers count = some (.error (.notary cause)) :=
      fun count more => flow.heardAfter_of_error now signed observers connected more ruled
    exact finalize_of_no_verdict now signed observers consistent connected reached heard rfl

end MintFlow

end Scheme

/-! The mint over a link that fails once and holds its verdicts back for a millisecond more than
the flow waits. -/

namespace Notary.GoldMint

def slow : LocalLink := ((LocalLink.fresh (.fresh notary)).failNext 1).holdBack 30001

theorem reachable_slow : slow.Reachable :=
  ((LocalLink.Reachable.fresh notary).failNext 1).holdBack 30001

end Notary.GoldMint

open Notary.GoldMint in
theorem MintFlow.finalize_faulty_link_slow :
    let channel := LocalLink.channel inTime.now
    let ending := flow.finalize channel ⟨slow, 0⟩ inTime.signed inTime.observers
    flow.config.validate = .ok () ∧ slow.Reachable ∧
      ending.1 = .error (.unreachable .timeout inTime.signed.id 3) ∧
      ending.2.state =
        { slow with
          notary := (slow.notary.notarise inTime.now inTime.signed inTime.observers).2
          failures := 0
          submissions := 3 } := by
  have settings : flow.config.validate = .ok () := rfl
  have reachable : (Connection.mk slow 0).state.Reachable := reachable_slow
  have unused : (Connection.mk slow 0).state.notary = Notary.fresh notary := rfl
  have ruled : ((Connection.mk slow 0).state.notary.notarise inTime.now inTime.signed
      inTime.observers).1 = .ok (.finalized inTime.signed.id) := by
    rw [unused, ← Notary.answer]
    exact answer_inTime
  obtain ⟨inTime_iff, -, connected⟩ :=
    finalize_faulty_link flow settings reachable inTime.now inTime.signed inTime.observers
  obtain ⟨-, -, reached⟩ := connected rfl
  obtain ⟨-, -, -, late, -⟩ := reached (by decide)
  have delay_ends : Timers.Punctual slow.delay := Timers.punctual_iff.mpr (by decide)
  have timeout_ends : Timers.Punctual flow.config.timeoutMillis.toNat :=
    Timers.punctual_iff.mpr (by decide)
  have too_late : ¬ Timers.elapsed slow.delay ≤ Timers.elapsed flow.config.timeoutMillis.toNat :=
    fun soon => absurd ((inTime_iff delay_ends timeout_ends).mp soon) (by decide)
  exact ⟨settings, reachable_slow, late _ ruled too_late⟩

end TokenLedger
