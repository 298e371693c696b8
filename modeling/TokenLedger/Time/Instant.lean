/-!
Instants and spans of time.

An instant is a second since the beginning of 1970 in UTC and a count of nanoseconds in it. The
count reaches `2 * 10 ^ 9`: from `10 ^ 9` on it lies inside a leap second, which follows the second.
Leap seconds belong at the end of a minute (`Instant.LeapAtMinuteEnd`), and an instant that is given
by its parts has none elsewhere (`Instant.ofParts?`); but nothing else asks where one lies. Instants
are bounded to the years from -262143 to 262142 and compared by second and then by nanosecond.

Adding a span (`Instant.add?`) counts every minute as sixty seconds, with one exception: an instant
inside a leap second stays there as long as the span is less than a second and does not reach the
leap second's end; a longer or a negative whole-second span first leaves the leap second, forward or
back.
-/

namespace TokenLedger

/-- The number of nanoseconds in a second. -/
def nanosPerSecond : Nat := 1000000000

/-- A signed length of time in nanoseconds. -/
structure Span where
  nanos : Int
deriving DecidableEq, Repr, Inhabited

namespace Span

/-- The span of a number of whole seconds and nanoseconds. -/
def ofParts (seconds nanos : Int) : Span := ⟨seconds * nanosPerSecond + nanos⟩

/-- The longest span that is counted in milliseconds by a signed number of 64 bits. -/
def longestMillis : Nat := UInt64.size / 2 - 1

/-- The span of a number of seconds, unless it is longer than the longest span. -/
def ofSeconds? (seconds : Nat) : Option Span :=
  if seconds ≤ longestMillis / 1000 then some (ofParts seconds 0) else none

/-- The whole seconds of the span, rounded toward zero. -/
def wholeSeconds (span : Span) : Int := span.nanos.tdiv nanosPerSecond

/-- What is left beside the whole seconds, with the sign of the span. -/
def restNanos (span : Span) : Int := span.nanos.tmod nanosPerSecond

instance : Add Span := ⟨fun left right => ⟨left.nanos + right.nanos⟩⟩

end Span

/-- The first second that an instant can have: the beginning of the year -262143. -/
def firstSecond : Int := -8334601228800

/-- The last second that an instant can have: the end of the year 262142. -/
def lastSecond : Int := 8210266876799

/-- A point in time. -/
structure Instant where
  second : Int
  nano : Nat
  firstSecond_le : firstSecond ≤ second
  le_lastSecond : second ≤ lastSecond
  nano_lt : nano < 2 * nanosPerSecond
deriving DecidableEq

namespace Instant

/-- The instant with these parts, if they are within the bounds of time. -/
def within? (second : Int) (nano : Nat) : Option Instant :=
  if h : firstSecond ≤ second ∧ second ≤ lastSecond ∧ nano < 2 * nanosPerSecond then
    some ⟨second, nano, h.1, h.2.1, h.2.2⟩
  else none

/-- An instant is known by its second and its nanosecond. -/
theorem within?_eq_some_iff {second : Int} {nano : Nat} {instant : Instant} :
    within? second nano = some instant ↔ instant.second = second ∧ instant.nano = nano := by
  constructor
  · intro found
    unfold within? at found
    split at found
    · cases found
      exact ⟨rfl, rfl⟩
    · cases found
  · rintro ⟨rfl, rfl⟩
    exact dif_pos ⟨instant.firstSecond_le, instant.le_lastSecond, instant.nano_lt⟩

/-- If the instant is inside a leap second, this one follows the last second of a minute. -/
def LeapAtMinuteEnd (instant : Instant) : Prop :=
  nanosPerSecond ≤ instant.nano → instant.second % 60 = 59

instance (instant : Instant) : Decidable instant.LeapAtMinuteEnd :=
  inferInstanceAs (Decidable (_ → _))

/-- The instant that is given by these parts: a leap second has to be at the end of a minute. -/
def ofParts? (second : Int) (nano : Nat) : Option Instant :=
  (within? second nano).filter fun instant => instant.LeapAtMinuteEnd

/-- The beginning of 1970. -/
def epoch : Instant where
  second := 0
  nano := 0
  firstSecond_le := by decide
  le_lastSecond := by decide
  nano_lt := by decide

instance : Inhabited Instant := ⟨epoch⟩

/-! ### Order -/

/-- Earlier by second, or in the same second by nanosecond. -/
instance : LT Instant where
  lt left right := left.second < right.second ∨ left.second = right.second ∧ left.nano < right.nano

/-- Not later. -/
instance : LE Instant where
  le left right := left.second < right.second ∨ left.second = right.second ∧ left.nano ≤ right.nano

instance (left right : Instant) : Decidable (left < right) :=
  inferInstanceAs (Decidable (_ ∨ _))

instance (left right : Instant) : Decidable (left ≤ right) :=
  inferInstanceAs (Decidable (_ ∨ _))

theorem lt_def {left right : Instant} :
    left < right ↔
      left.second < right.second ∨ left.second = right.second ∧ left.nano < right.nano := Iff.rfl

theorem le_def {left right : Instant} :
    left ≤ right ↔
      left.second < right.second ∨ left.second = right.second ∧ left.nano ≤ right.nano := Iff.rfl

theorem not_lt {left right : Instant} : ¬ left < right ↔ right ≤ left := by
  rw [lt_def, le_def]; omega

theorem not_le {left right : Instant} : ¬ left ≤ right ↔ right < left := by
  rw [lt_def, le_def]; omega

theorem le_refl (instant : Instant) : instant ≤ instant := by
  rw [le_def]; omega

theorem le_trans {early middle late : Instant} (first : early ≤ middle) (second : middle ≤ late) :
    early ≤ late := by
  rw [le_def] at *; omega

theorem lt_of_le_of_lt {early middle late : Instant} (first : early ≤ middle)
    (second : middle < late) : early < late := by
  rw [le_def] at first
  rw [lt_def] at *; omega

/-! ### Moving in time -/

/-- The second and the nanoseconds from which a span is counted when it leaves the leap second that
an instant lies in; `none` when the span stays inside. An instant outside a leap second is counted
from where it stands. -/
def countedFrom (instant : Instant) (span : Span) : Option (Int × Int) :=
  if instant.nano < nanosPerSecond then some (instant.second, instant.nano)
  else if 0 < span.wholeSeconds ∨
      0 < span.restNanos ∧ (2 * nanosPerSecond : Int) ≤ instant.nano + span.restNanos then
    some (instant.second, instant.nano - nanosPerSecond)
  else if span.wholeSeconds < 0 then some (instant.second + 1, instant.nano - nanosPerSecond)
  else none

/-- The instant a span later, unless it lies outside the bounds. -/
def add? (instant : Instant) (span : Span) : Option Instant :=
  match instant.countedFrom span with
  | none => within? instant.second (instant.nano + span.restNanos).toNat
  | some (second, nano) =>
    let total := nano + span.restNanos
    within? (second + span.wholeSeconds + total / nanosPerSecond) (total % nanosPerSecond).toNat

/-- The whole microseconds since the beginning of 1970; those of a leap second count on. -/
def micros (instant : Instant) : Int :=
  instant.second * 1000000 + instant.nano / 1000

end Instant

end TokenLedger
