import TokenLedger.Time.Instant
/-!
A clock that moves only when it is told to.

Setting gives the clock a new reading and advancing adds a span to it. An advance that would leave
the bounds of time fails, and the clock is stuck from then on: it goes on showing the reading from
just before, and neither setting nor advancing changes it any more (`stuck_set`, `stuck_advance`).
-/

namespace TokenLedger

/-- A reading, and whether the clock is stuck at it. -/
structure FixedClock where
  reading : Instant
  stuck : Bool
deriving DecidableEq

namespace FixedClock

/-- A clock that shows an instant. -/
def start (now : Instant) : FixedClock := ⟨now, false⟩

/-- The current time. -/
def now (clock : FixedClock) : Instant := clock.reading

/-- Shows another instant, unless the clock is stuck. -/
def set (clock : FixedClock) (instant : Instant) : FixedClock :=
  if clock.stuck then clock else { clock with reading := instant }

/-- Whether advancing by a span leaves the bounds of time. -/
def overflows (clock : FixedClock) (span : Span) : Bool :=
  !clock.stuck && (clock.reading.add? span).isNone

/-- Moves on by a span, unless the clock is stuck; a span that leaves the bounds of time makes it
stuck. -/
def advance (clock : FixedClock) (span : Span) : FixedClock :=
  if clock.stuck then clock
  else
    match clock.reading.add? span with
    | some later => { clock with reading := later }
    | none => { clock with stuck := true }

@[simp] theorem stuck_set (reading instant : Instant) :
    set ⟨reading, true⟩ instant = ⟨reading, true⟩ := rfl

@[simp] theorem stuck_advance (reading : Instant) (span : Span) :
    advance ⟨reading, true⟩ span = ⟨reading, true⟩ := rfl

end FixedClock

end TokenLedger
