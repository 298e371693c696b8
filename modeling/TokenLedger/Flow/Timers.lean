/-!
The timers that waits are measured with.

Waiting is left to a runtime that is not part of the ledger. It is asked to wait for a number of
milliseconds, and its timers say how many pass until then (`Timers.elapsed`). All that is known of
any timers is that they do not wait when there is nothing to wait for; that a wait ends at its
deadline is a condition on this wait (`Timers.Punctual`).

Everything about waits is stated over any timers. Programs run with `Timers.capped`: these keep
every deadline up to thirty years and end a longer wait then (`Timers.punctual_iff`).
-/

namespace TokenLedger

/-- How long waits take. -/
class Timers where
  /-- The milliseconds until a wait ends that is asked to take so many. -/
  elapsed : Nat → Nat
  elapsed_zero : elapsed 0 = 0

attribute [simp] Timers.elapsed_zero

namespace Timers

/-- A wait of so many milliseconds ends at its deadline. -/
def Punctual [Timers] (millis : Nat) : Prop := elapsed millis = millis

/-- Of two waits that end at their deadlines the shorter one ends first. -/
theorem Punctual.elapsed_le_iff [Timers] {first second : Nat} (first_ends : Punctual first)
    (second_ends : Punctual second) : elapsed first ≤ elapsed second ↔ first ≤ second := by
  unfold Punctual at first_ends second_ends
  rw [first_ends, second_ends]

/-- The longest wait in milliseconds: thirty years of 365 days. -/
def longestWait : Nat := 30 * 365 * 24 * 60 * 60 * 1000

/-- Every wait ends at its deadline, or after the longest wait. -/
instance capped : Timers where
  elapsed millis := min millis longestWait
  elapsed_zero := Nat.zero_min _

/-- With these timers exactly the waits of up to thirty years end at their deadlines. -/
theorem punctual_iff {millis : Nat} : Punctual millis ↔ millis ≤ longestWait := by
  show min millis longestWait = millis ↔ millis ≤ longestWait
  omega

end Timers

end TokenLedger
