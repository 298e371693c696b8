import TokenLedger.Time.Instant
/-!
Going forward in time.

A span that is not negative is added in one of two ways. From inside a leap second it leads to an
instant inside the same leap second, as long as it ends before the leap second does
(`Instant.add?_of_staysInLeap`). Otherwise it is counted from the nanosecond that the instant has
beyond its second, and what fills a second is carried over (`Instant.add?_of_not_staysInLeap`).

* `Instant.lt_of_add?`: a positive span leads to a later instant.
* `Instant.bind_add?`: two spans after one another lead where their sum leads, and beyond time if it
  leads there. The way may begin in a leap second, go on in it and leave it.
-/

namespace TokenLedger

namespace Span

theorem wholeSeconds_of_nonneg {span : Span} (forward : 0 ≤ span.nanos) :
    span.wholeSeconds = span.nanos / nanosPerSecond := Int.tdiv_eq_ediv_of_nonneg forward

theorem restNanos_of_nonneg {span : Span} (forward : 0 ≤ span.nanos) :
    span.restNanos = span.nanos % nanosPerSecond := Int.tmod_eq_emod_of_nonneg forward

@[simp] theorem nanos_add (first second : Span) :
    (first + second).nanos = first.nanos + second.nanos := rfl

end Span

namespace Instant

/-! ### Instants from their parts -/

theorem within?_of_beyond {second : Int} (beyond : lastSecond < second) (nano : Nat) :
    within? second nano = none :=
  dif_neg fun bounds => Int.not_le.mpr beyond bounds.2.1

/-- The instant that lies so many nanoseconds after the beginning of a second. -/
def after? (second nanos : Int) : Option Instant :=
  within? (second + nanos / nanosPerSecond) (nanos % nanosPerSecond).toNat

theorem after?_eq_some_iff {second nanos : Int} {instant : Instant} :
    after? second nanos = some instant ↔
      instant.second = second + nanos / nanosPerSecond ∧
        (instant.nano : Int) = nanos % nanosPerSecond := by
  have rest : 0 ≤ nanos % nanosPerSecond := Int.emod_nonneg nanos (by decide)
  rw [after?, within?_eq_some_iff]
  omega

theorem after?_of_beyond {second nanos : Int}
    (beyond : lastSecond < second + nanos / nanosPerSecond) : after? second nanos = none :=
  within?_of_beyond beyond _

/-- There is no such instant only if its second is beyond time, if it is not before the second that
one counts from. -/
theorem beyond_of_after?_eq_none {instant : Instant} {nanos : Int} (forward : 0 ≤ nanos)
    (none_there : after? instant.second nanos = none) :
    lastSecond < instant.second + nanos / nanosPerSecond := by
  have begun := instant.firstSecond_le
  refine Int.not_le.mp fun in_time => ?_
  have bounds : firstSecond ≤ instant.second + nanos / nanosPerSecond ∧
      instant.second + nanos / nanosPerSecond ≤ lastSecond ∧
        (nanos % nanosPerSecond).toNat < 2 * nanosPerSecond := by
    unfold nanosPerSecond
    unfold nanosPerSecond at in_time
    omega
  rw [after?, within?, dif_pos bounds] at none_there
  cases none_there

/-! ### Two ways of adding a span -/

/-- The span ends inside the leap second that the instant lies in. -/
def StaysInLeap (instant : Instant) (span : Span) : Prop :=
  nanosPerSecond ≤ instant.nano ∧ instant.nano + span.nanos < 2 * nanosPerSecond

instance (instant : Instant) (span : Span) : Decidable (instant.StaysInLeap span) :=
  inferInstanceAs (Decidable (_ ∧ _))

variable {instant later : Instant} {span first second : Span}

theorem countedFrom_of_staysInLeap (forward : 0 ≤ span.nanos) (stays : instant.StaysInLeap span) :
    instant.countedFrom span = none := by
  obtain ⟨inside, before_end⟩ := stays
  unfold nanosPerSecond at inside before_end
  rw [countedFrom, Span.wholeSeconds_of_nonneg forward, Span.restNanos_of_nonneg forward]
  unfold nanosPerSecond
  rw [if_neg (by omega), if_neg (by omega), if_neg (by omega)]

/-- **Inside a leap second the nanoseconds are counted on.** -/
theorem add?_of_staysInLeap (forward : 0 ≤ span.nanos) (stays : instant.StaysInLeap span) :
    instant.add? span = some later ↔
      later.second = instant.second ∧ (later.nano : Int) = instant.nano + span.nanos := by
  rw [add?, countedFrom_of_staysInLeap forward stays]
  dsimp only
  obtain ⟨inside, before_end⟩ := stays
  have rest : span.restNanos = span.nanos := by
    rw [Span.restNanos_of_nonneg forward]
    unfold nanosPerSecond at inside before_end ⊢
    omega
  rw [rest, within?_eq_some_iff]
  omega

theorem countedFrom_of_not_staysInLeap (forward : 0 ≤ span.nanos)
    (leaves : ¬ instant.StaysInLeap span) :
    instant.countedFrom span =
      some (instant.second, ((instant.nano % nanosPerSecond : Nat) : Int)) := by
  have below := instant.nano_lt
  unfold countedFrom
  by_cases ordinary : instant.nano < nanosPerSecond
  · rw [if_pos ordinary, Nat.mod_eq_of_lt ordinary]
  · have reaches : (2 * nanosPerSecond : Int) ≤ instant.nano + span.nanos := by
      unfold StaysInLeap at leaves
      omega
    have counted :
        ((instant.nano % nanosPerSecond : Nat) : Int) = instant.nano - nanosPerSecond := by
      rw [Nat.mod_eq_sub_mod (Nat.le_of_not_lt ordinary), Nat.mod_eq_of_lt (by omega),
        Int.natCast_sub (Nat.le_of_not_lt ordinary)]
    rw [if_neg ordinary, Span.wholeSeconds_of_nonneg forward, Span.restNanos_of_nonneg forward,
      counted, if_pos]
    unfold nanosPerSecond at reaches below ⊢
    omega

/-- **Elsewhere a full second is carried over.** -/
theorem add?_of_not_staysInLeap (forward : 0 ≤ span.nanos) (leaves : ¬ instant.StaysInLeap span) :
    instant.add? span =
      after? instant.second ((instant.nano % nanosPerSecond : Nat) + span.nanos) := by
  rw [add?, countedFrom_of_not_staysInLeap forward leaves]
  dsimp only
  have split : span.nanos / nanosPerSecond * nanosPerSecond + span.nanos % nanosPerSecond =
      span.nanos := Int.ediv_mul_add_emod _ _
  rw [after?, Span.wholeSeconds_of_nonneg forward, Span.restNanos_of_nonneg forward]
  congr 1
  · unfold nanosPerSecond
    omega
  · unfold nanosPerSecond
    omega

/-! ### Later and later -/

/-- **A positive span leads to a later instant.** -/
theorem lt_of_add? (positive : 0 < span.nanos) (added : instant.add? span = some later) :
    instant < later := by
  have forward : 0 ≤ span.nanos := Int.le_of_lt positive
  have below := instant.nano_lt
  rw [lt_def]
  by_cases stays : instant.StaysInLeap span
  · obtain ⟨second_eq, nano_eq⟩ := (add?_of_staysInLeap forward stays).mp added
    omega
  · rw [add?_of_not_staysInLeap forward stays, after?_eq_some_iff] at added
    obtain ⟨second_eq, nano_eq⟩ := added
    unfold StaysInLeap nanosPerSecond at stays
    unfold nanosPerSecond at below second_eq nano_eq
    omega

/-- Counting on from an instant that was counted up to. -/
theorem after?_after {second nanos more : Int} (counted : after? second nanos = some instant) :
    after? instant.second (instant.nano + more) = after? second (nanos + more) := by
  obtain ⟨second_eq, nano_eq⟩ := after?_eq_some_iff.mp counted
  unfold after?
  congr 1
  · rw [second_eq, nano_eq]
    unfold nanosPerSecond
    omega
  · rw [nano_eq, Int.emod_add_emod]

/-- There is room inside the leap second for a span that stays there. -/
theorem exists_add?_of_staysInLeap (forward : 0 ≤ span.nanos) (stays : instant.StaysInLeap span) :
    ∃ later, instant.add? span = some later := by
  have before_end := stays.2
  refine ⟨⟨instant.second, (instant.nano + span.nanos).toNat, instant.firstSecond_le,
    instant.le_lastSecond, ?_⟩, (add?_of_staysInLeap forward stays).mpr ⟨rfl, ?_⟩⟩
  · omega
  · exact Int.toNat_of_nonneg (by omega)

/-- Counting on goes further beyond time, once it is there. -/
theorem after?_eq_none_of_le {nanos more : Int} (forward : 0 ≤ nanos) (further : nanos ≤ more)
    (none_there : after? instant.second nanos = none) : after? instant.second more = none := by
  have beyond := beyond_of_after?_eq_none forward none_there
  refine after?_of_beyond (Int.lt_of_lt_of_le beyond ?_)
  exact Int.add_le_add_left (Int.ediv_le_ediv (by decide) further) _

/-- Two spans of which the first stays in the leap second. -/
theorem bind_add?_of_staysInLeap (first_forward : 0 ≤ first.nanos)
    (second_forward : 0 ≤ second.nanos) (stays : instant.StaysInLeap first) :
    (instant.add? first).bind (fun middle => middle.add? second) =
      instant.add? (first + second) := by
  have forward : 0 ≤ (first + second).nanos := Int.add_nonneg first_forward second_forward
  obtain ⟨middle, added⟩ := exists_add?_of_staysInLeap first_forward stays
  obtain ⟨second_eq, nano_eq⟩ := (add?_of_staysInLeap first_forward stays).mp added
  have inside := stays.1
  rw [added, Option.bind_some]
  by_cases again : middle.StaysInLeap second
  · have both : instant.StaysInLeap (first + second) := by
      refine ⟨inside, ?_⟩
      have before_end := again.2
      rw [Span.nanos_add]
      omega
    obtain ⟨later, added_again⟩ := exists_add?_of_staysInLeap second_forward again
    obtain ⟨later_second, later_nano⟩ := (add?_of_staysInLeap second_forward again).mp added_again
    rw [added_again, eq_comm, add?_of_staysInLeap forward both, Span.nanos_add]
    omega
  · have leaves : ¬ instant.StaysInLeap (first + second) := by
      unfold StaysInLeap at again ⊢
      rw [Span.nanos_add]
      omega
    rw [add?_of_not_staysInLeap second_forward again, add?_of_not_staysInLeap forward leaves,
      second_eq, Span.nanos_add]
    have below := stays.2
    unfold nanosPerSecond at inside below ⊢
    congr 1
    omega

/-- Two spans of which the first does not stay in a leap second. What is carried over with the first
is not carried over again, as the instant in between is outside of leap seconds. -/
theorem bind_add?_of_not_staysInLeap (first_forward : 0 ≤ first.nanos)
    (second_forward : 0 ≤ second.nanos) (stays : ¬ instant.StaysInLeap first) :
    (instant.add? first).bind (fun middle => middle.add? second) =
      instant.add? (first + second) := by
  have forward : 0 ≤ (first + second).nanos := Int.add_nonneg first_forward second_forward
  have leaves : ¬ instant.StaysInLeap (first + second) := by
    unfold StaysInLeap at stays ⊢
    rw [Span.nanos_add]
    omega
  rw [add?_of_not_staysInLeap first_forward stays, add?_of_not_staysInLeap forward leaves,
    Span.nanos_add, ← Int.add_assoc]
  cases counted : after? instant.second ((instant.nano % nanosPerSecond : Nat) + first.nanos) with
  | none =>
    rw [Option.bind_none, after?_eq_none_of_le _ _ counted]
    · omega
    · omega
  | some middle =>
    have ordinary : middle.nano < nanosPerSecond := by
      have small := Int.emod_lt_of_pos ((instant.nano % nanosPerSecond : Nat) + first.nanos)
        (show (0 : Int) < nanosPerSecond by decide)
      have nano_eq := (after?_eq_some_iff.mp counted).2
      omega
    have elsewhere : ¬ middle.StaysInLeap second := fun again =>
      absurd ordinary (Nat.not_lt.mpr again.1)
    rw [Option.bind_some, add?_of_not_staysInLeap second_forward elsewhere,
      Nat.mod_eq_of_lt ordinary, after?_after counted]

/-- **Two spans lead where their sum leads.** -/
theorem bind_add? (first_forward : 0 ≤ first.nanos) (second_forward : 0 ≤ second.nanos) :
    (instant.add? first).bind (fun middle => middle.add? second) =
      instant.add? (first + second) := by
  by_cases stays : instant.StaysInLeap first
  · exact bind_add?_of_staysInLeap first_forward second_forward stays
  · exact bind_add?_of_not_staysInLeap first_forward second_forward stays

/-- Seven tenths into the leap second that ended 2016, two tenths more stay in it, and five tenths
more lead two tenths into 2017. -/
example :
    let now : Instant :=
      ⟨1483228799, 1700000000, by decide, by decide, by decide⟩
    ((now.add? ⟨200000000⟩).map fun later => (later.second, later.nano)) =
        some (1483228799, 1900000000) ∧
      ((now.add? ⟨500000000⟩).map fun later => (later.second, later.nano)) =
        some (1483228800, 200000000) := by
  decide

end Instant

end TokenLedger
