import TokenLedger.Flow.Mint
import TokenLedger.Proofs.Time.Addition
/-!
When the window of a new proposal ends.

The window begins now and lasts a whole number of seconds, at least one. Two bounds are in its way:
the longest span, and the end of time. The first is never the one that is met, because it is a
thousand times as long as all of time.

* `Instant.add?_ofParts`: whole seconds are counted on from the same nanosecond. An instant inside a
  leap second is counted from the nanosecond that it has beyond the second.
* `MintFlow.windowEnd_eq_ok_iff`: so much for the end of the window.
* `MintFlow.exists_windowEnd_iff`: there is one exactly if the second of its end is not beyond time.
-/

namespace TokenLedger

/-! ### Whole seconds -/

namespace Instant

/-- **Some whole seconds later** it is the same nanosecond, but outside of leap seconds. -/
theorem add?_ofParts {now : Instant} {seconds : Nat} (some_time : 0 < seconds) :
    now.add? (.ofParts seconds 0) =
      within? (now.second + seconds) (now.nano % nanosPerSecond) := by
  have nanos_eq : (Span.ofParts seconds 0).nanos = seconds * nanosPerSecond := Int.add_zero _
  have forward : 0 ≤ (Span.ofParts seconds 0).nanos := by
    rw [nanos_eq]
    exact Int.mul_nonneg (Int.natCast_nonneg _) (Int.natCast_nonneg _)
  -- whole seconds are longer than what is left of a leap second
  have leaves : ¬ now.StaysInLeap (.ofParts seconds 0) := by
    unfold StaysInLeap
    rw [nanos_eq]
    unfold nanosPerSecond
    omega
  rw [add?_of_not_staysInLeap forward leaves, after?, nanos_eq]
  unfold nanosPerSecond
  congr 1
  · omega
  · omega

/-- Some whole seconds later there is an instant if their end is not beyond time. -/
theorem exists_later {now : Instant} {seconds : Nat} (in_time : now.second + seconds ≤ lastSecond) :
    ∃ later : Instant,
      later.second = now.second + seconds ∧ later.nano = now.nano % nanosPerSecond := by
  have begun := now.firstSecond_le
  have below : now.nano % nanosPerSecond < nanosPerSecond := Nat.mod_lt _ (by decide)
  refine ⟨⟨now.second + seconds, now.nano % nanosPerSecond, ?_, in_time, ?_⟩, rfl, rfl⟩
  · omega
  · omega

end Instant

/-! ### The end of the window -/

namespace FlowConfig

variable {config : FlowConfig}

theorem validitySeconds_pos (valid : config.validate = .ok ()) :
    0 < config.validitySeconds.toNat := by
  unfold validate at valid
  split at valid
  · cases valid
  split at valid
  · cases valid
  split at valid
  · cases valid
  rename_i some_time
  exact Nat.pos_of_ne_zero fun zero => some_time (UInt64.toNat_inj.mp zero)

/-- The validity is a span unless it is longer than the longest one. -/
theorem validity_eq_none_iff :
    config.validity = none ↔ Span.longestMillis / 1000 < config.validitySeconds.toNat := by
  unfold validity Span.ofSeconds?
  by_cases short : config.validitySeconds.toNat ≤ Span.longestMillis / 1000
  · simp [short]
  · simp [short, Nat.lt_of_not_le short]

/-- A validity that is too long for a span would lead beyond time all the more. -/
theorem bind_validity (some_time : 0 < config.validitySeconds.toNat) (now : Instant) :
    config.validity.bind now.add? =
      Instant.within? (now.second + config.validitySeconds.toNat)
        (now.nano % nanosPerSecond) := by
  unfold validity Span.ofSeconds?
  by_cases short : config.validitySeconds.toNat ≤ Span.longestMillis / 1000
  · rw [if_pos short, Option.bind_some, Instant.add?_ofParts some_time]
  · rw [if_neg short, Option.bind_none, Instant.within?_of_beyond]
    have begun := now.firstSecond_le
    unfold firstSecond at begun
    unfold Span.longestMillis UInt64.size at short
    unfold lastSecond
    omega

end FlowConfig

namespace MintFlow

variable {flow : MintFlow} {now stop : Instant}

/-- **The window ends so many seconds after it starts**, and not at all where there is no such
instant. -/
theorem windowEnd_eq_ok_iff (some_time : 0 < flow.config.validitySeconds.toNat) :
    flow.windowEnd now = .ok stop ↔
      stop.second = now.second + flow.config.validitySeconds.toNat ∧
        stop.nano = now.nano % nanosPerSecond := by
  rw [← Instant.within?_eq_some_iff, ← FlowConfig.bind_validity some_time]
  unfold windowEnd
  cases flow.config.validity.bind now.add? with
  | none => simp
  | some later => simp

/-- There is an end of the window exactly if its second is not beyond time. -/
theorem exists_windowEnd_iff (some_time : 0 < flow.config.validitySeconds.toNat) :
    (∃ stop, flow.windowEnd now = .ok stop) ↔
      now.second + flow.config.validitySeconds.toNat ≤ lastSecond := by
  constructor
  · rintro ⟨stop, ends⟩
    rw [← ((windowEnd_eq_ok_iff some_time).mp ends).1]
    exact stop.le_lastSecond
  · intro in_time
    obtain ⟨stop, parts⟩ := Instant.exists_later in_time
    exact ⟨stop, (windowEnd_eq_ok_iff some_time).mpr parts⟩

/-- Nothing but the end of time is in the way of a window. -/
theorem windowEnd_of_beyond (some_time : 0 < flow.config.validitySeconds.toNat)
    (beyond : lastSecond < now.second + flow.config.validitySeconds.toNat) :
    flow.windowEnd now = .error .beyondTime := by
  unfold windowEnd
  rw [FlowConfig.bind_validity some_time, Instant.within?_of_beyond beyond]

/-- A window ends after it starts. -/
theorem lt_windowEnd (some_time : 0 < flow.config.validitySeconds.toNat)
    (ends : flow.windowEnd now = .ok stop) : now < stop := by
  rw [Instant.lt_def, ((windowEnd_eq_ok_iff some_time).mp ends).1]
  omega

end MintFlow

end TokenLedger
