import Mathlib.Data.List.DropRight
import TokenLedger.Proofs.First
import TokenLedger.Proofs.Time.Addition
import TokenLedger.Time.Clock
/-!
What a clock shows that is set and advanced.

The adjustments of a clock describe a reading by themselves: the instant that was set last, with the
spans of the later advances added one after the other (`FixedClock.described?`). There is no such
reading once an advance leads beyond time (`FixedClock.Overflows`).

A clock shows what its adjustments describe, up to the first advance that overflows. From then on it
shows what was described just before, whatever comes after (`FixedClock.showing_run`, by one step
after the other). `FixedClock.now_run` is that, together with the two laws of advancing: a positive
span leads to a later reading, and two spans after one another lead where their sum does.
-/

namespace TokenLedger.FixedClock

/-! ### Adjustments -/

/-- Something that is done to a clock. -/
inductive Adjustment where
  | set (instant : Instant)
  | advance (span : Span)

namespace Adjustment

/-- The instant that the clock is set to. -/
def instant? : Adjustment → Option Instant
  | set instant => some instant
  | advance _ => none

/-- The span that the clock is advanced by. -/
def span? : Adjustment → Option Span
  | set _ => none
  | advance span => some span

end Adjustment

def adjust (clock : FixedClock) : Adjustment → FixedClock
  | .set instant => clock.set instant
  | .advance span => clock.advance span

/-- The clock after one adjustment after the other. -/
def run (clock : FixedClock) (adjustments : List Adjustment) : FixedClock :=
  adjustments.foldl adjust clock

theorem run_concat (clock : FixedClock) (adjustments : List Adjustment) (adjustment : Adjustment) :
    clock.run (adjustments ++ [adjustment]) = (clock.run adjustments).adjust adjustment := by
  rw [run, List.foldl_append]
  rfl

/-! ### What adjustments describe -/

/-- The instant that was set last, or the one at the start. -/
def lastSet (start : Instant) (adjustments : List Adjustment) : Instant :=
  (adjustments.filterMap Adjustment.instant?).getLast?.getD start

/-- The spans of the advances after the last setting, in order. -/
def laterSpans (adjustments : List Adjustment) : List Span :=
  (adjustments.rtakeWhile fun adjustment => adjustment.span?.isSome).filterMap Adjustment.span?

/-- **The reading that adjustments describe**: what was set last, with the later spans added, if
this stays within time. -/
def described? (start : Instant) (adjustments : List Adjustment) : Option Instant :=
  (laterSpans adjustments).foldlM Instant.add? (lastSet start adjustments)

/-- An advance leads beyond time from what is described by the adjustments before it. -/
def Overflows (start : Instant) (before : List Adjustment) : Adjustment → Prop
  | .set _ => False
  | .advance span => ∃ reading, described? start before = some reading ∧ reading.add? span = none

section Described

variable (start : Instant) (adjustments : List Adjustment)

theorem described?_nil : described? start [] = some start := rfl

/-- Setting leaves nothing of what was before. -/
theorem described?_concat_set (instant : Instant) :
    described? start (adjustments ++ [.set instant]) = some instant := by
  have last : lastSet start (adjustments ++ [.set instant]) = instant := by
    rw [lastSet, List.filterMap_append]
    simp [Adjustment.instant?]
  have nothing_later : laterSpans (adjustments ++ [.set instant]) = [] := by
    rw [laterSpans, List.rtakeWhile_concat_neg]
    · rfl
    · simp [Adjustment.span?]
  rw [described?, nothing_later, last]
  rfl

/-- Advancing adds a span to what was described. -/
theorem described?_concat_advance (span : Span) :
    described? start (adjustments ++ [.advance span]) =
      (described? start adjustments).bind fun reading => reading.add? span := by
  have same : lastSet start (adjustments ++ [.advance span]) = lastSet start adjustments := by
    rw [lastSet, List.filterMap_append]
    simp [Adjustment.instant?, lastSet]
  have one_more :
      laterSpans (adjustments ++ [.advance span]) = laterSpans adjustments ++ [span] := by
    rw [laterSpans, List.rtakeWhile_concat_pos, List.filterMap_append]
    · rfl
    · rfl
  rw [described?, one_more, same, List.foldlM_append, described?]
  cases (laterSpans adjustments).foldlM Instant.add? (lastSet start adjustments) with
  | none => rfl
  | some reading => simp

end Described

/-! ### What a clock shows -/

/-- A clock after some adjustments: it goes, as no advance overflowed, or it is stuck at what was
described before the first one that did. -/
inductive Showing (start : Instant) (adjustments : List Adjustment) : FixedClock → Prop
  | going {reading : Instant} (within : NoneBad (Overflows start) adjustments)
      (described : described? start adjustments = some reading) :
      Showing start adjustments ⟨reading, false⟩
  | stuck {reading : Instant} {index : Nat} {adjustment : Adjustment}
      (first : FirstAt (Overflows start) adjustments index adjustment)
      (before : described? start (adjustments.take index) = some reading) :
      Showing start adjustments ⟨reading, true⟩

variable {start : Instant} {adjustments : List Adjustment} {clock : FixedClock}

/-- One adjustment more. -/
theorem Showing.adjust (shows_before : Showing start adjustments clock) (adjustment : Adjustment) :
    Showing start (adjustments ++ [adjustment]) (clock.adjust adjustment) := by
  cases shows_before with
  | going within described =>
    rename_i reading
    cases adjustment with
    | set instant =>
      exact .going (within.concat not_false) (described?_concat_set start adjustments instant)
    | advance span =>
      have next := described?_concat_advance start adjustments span
      rw [described, Option.bind_some] at next
      cases added : reading.add? span with
      | some later =>
        have advanced : FixedClock.adjust ⟨reading, false⟩ (.advance span) = ⟨later, false⟩ := by
          simp [FixedClock.adjust, advance, added]
        have fits : ¬ Overflows start adjustments (.advance span) := by
          rintro ⟨other, also_described, beyond⟩
          cases described.symm.trans also_described
          cases added.symm.trans beyond
        rw [advanced]
        exact .going (within.concat fits) (next.trans added)
      | none =>
        have caught : FixedClock.adjust ⟨reading, false⟩ (.advance span) = ⟨reading, true⟩ := by
          simp [FixedClock.adjust, advance, added]
        rw [caught]
        refine .stuck (within.firstAt_concat ⟨reading, described, added⟩) ?_
        rw [List.take_left]
        exact described
  | stuck first before =>
    rename_i reading index overflowing
    have still : FixedClock.adjust ⟨reading, true⟩ adjustment = ⟨reading, true⟩ := by
      cases adjustment with
      | set instant => exact stuck_set reading instant
      | advance span => exact stuck_advance reading span
    rw [still]
    refine .stuck (first.append [adjustment]) ?_
    rw [List.take_append_of_le_length (Nat.le_of_lt first.lt)]
    exact before

/-- **A clock shows what its adjustments describe**, until one of them overflows. -/
theorem showing_run (start : Instant) (adjustments : List Adjustment) :
    Showing start adjustments ((FixedClock.start start).run adjustments) := by
  induction adjustments using List.reverseRecOn with
  | nil => exact .going noneBad_nil (described?_nil start)
  | append_singleton earlier adjustment ih =>
    rw [run_concat]
    exact ih.adjust adjustment

theorem Showing.described (shows_this : Showing start adjustments clock)
    (within : NoneBad (Overflows start) adjustments) :
    described? start adjustments = some clock.now := by
  cases shows_this with
  | going _ described => exact described
  | stuck first _ => exact absurd within first.not_noneBad

theorem Showing.described_before (shows_this : Showing start adjustments clock) {index : Nat}
    {adjustment : Adjustment} (first : FirstAt (Overflows start) adjustments index adjustment) :
    described? start (adjustments.take index) = some clock.now := by
  cases shows_this with
  | going within _ => exact absurd within first.not_noneBad
  | stuck also_first before =>
    obtain ⟨rfl, -⟩ := first.unique also_first
    exact before

/-- The clock reports an overflow at the first advance that overflows, and at no other. -/
theorem Showing.overflows_iff (shows_this : Showing start adjustments clock) (span : Span) :
    clock.overflows span = true ↔
      FirstAt (Overflows start) (adjustments ++ [.advance span]) adjustments.length
        (.advance span) := by
  cases shows_this with
  | going within described =>
    rename_i reading
    rw [overflows, Bool.not_false, Bool.true_and, Option.isNone_iff_eq_none]
    constructor
    · intro beyond
      exact within.firstAt_concat ⟨reading, described, beyond⟩
    · intro first
      have now := first.isBad
      rw [List.take_left] at now
      obtain ⟨other, also_described, beyond⟩ := now
      cases described.symm.trans also_described
      exact beyond
  | stuck first before =>
    rename_i reading index overflowing
    constructor
    · intro reported
      cases reported
    · intro last
      have early := first.lt
      have same := (first.append [.advance span]).unique last
      omega

/-! ### Advancing a clock that goes -/

theorem exists_add?_of_not_overflows (going : clock.stuck = false) {span : Span}
    (within : clock.overflows span = false) :
    ∃ later, clock.reading.add? span = some later ∧ clock.advance span = ⟨later, false⟩ := by
  rw [overflows, going, Bool.not_false, Bool.true_and, Option.isNone_eq_false_iff,
    Option.isSome_iff_exists] at within
  obtain ⟨later, added⟩ := within
  refine ⟨later, added, ?_⟩
  obtain ⟨reading, stuck⟩ := clock
  cases going
  simp only [advance, Bool.false_eq_true, if_false, added]

/-- **The readings of a clock over whole runs.** As long as no advance leads beyond time, the clock
shows what was set last with the later spans added. The first advance that does is the one that
fails, and it leaves the clock showing what it showed before, for the rest of the run. Advancing a
clock that goes by a positive span makes it show a later instant, and advancing it by two spans
after one another, neither of them negative, is advancing it by their sum, from inside a leap
second as from everywhere else. -/
theorem now_run (start : Instant) (adjustments : List Adjustment) :
    (NoneBad (Overflows start) adjustments →
      described? start adjustments = some ((FixedClock.start start).run adjustments).now) ∧
    (∀ index adjustment, FirstAt (Overflows start) adjustments index adjustment →
      described? start (adjustments.take index) =
        some ((FixedClock.start start).run adjustments).now) ∧
    (∀ span, ((FixedClock.start start).run adjustments).overflows span = true ↔
      FirstAt (Overflows start) (adjustments ++ [.advance span]) adjustments.length
        (.advance span)) ∧
    (∀ (clock : FixedClock) (span : Span), clock.stuck = false → clock.overflows span = false →
      0 < span.nanos → clock.now < (clock.advance span).now) ∧
    ∀ (clock : FixedClock) (first second : Span), clock.stuck = false → 0 ≤ first.nanos →
      0 ≤ second.nanos → clock.overflows first = false →
      (clock.advance first).overflows second = false →
      clock.overflows (first + second) = false ∧
        (clock.advance first).advance second = clock.advance (first + second) := by
  have shown := showing_run start adjustments
  refine ⟨shown.described, fun _ _ => shown.described_before, shown.overflows_iff, ?_, ?_⟩
  · intro clock span going within positive
    obtain ⟨later, added, advanced⟩ := exists_add?_of_not_overflows going within
    rw [advanced]
    exact Instant.lt_of_add? positive added
  · intro clock first second going first_forward second_forward first_within second_within
    obtain ⟨middle, added, advanced⟩ := exists_add?_of_not_overflows going first_within
    rw [advanced] at second_within ⊢
    obtain ⟨later, added_again, advanced_again⟩ :=
      exists_add?_of_not_overflows rfl second_within
    have at_once : clock.reading.add? (first + second) = some later := by
      rw [← Instant.bind_add? first_forward second_forward, added, Option.bind_some, added_again]
    have within : clock.overflows (first + second) = false := by
      rw [overflows, at_once, Option.isNone_some, Bool.and_false]
    obtain ⟨other, also_at_once, advanced_at_once⟩ := exists_add?_of_not_overflows going within
    cases at_once.symm.trans also_at_once
    exact ⟨within, advanced_again.trans advanced_at_once.symm⟩

end TokenLedger.FixedClock
