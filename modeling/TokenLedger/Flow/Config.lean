import TokenLedger.Json.Fault
import TokenLedger.Time.Instant
/-!
Settings of the mint flow.

They say how long a proposal is valid, how long an attempt may wait for the notary, how often to
try, and how long to wait between two attempts (`Backoff`): always the same time, or a time that
grows by a factor per attempt up to a greatest one.

`FlowConfig.validate` reports the first setting that is out of bounds. It does not bound the length
of the validity, which is a span only up to `Span.longestMillis` (`FlowConfig.validity`).
-/

namespace TokenLedger

/-- Why settings cannot be used. -/
inductive ConfigError where
  /-- The file could not be read, or does not hold text. -/
  | unreadable
  | parse (fault : Json.Fault)
  | invalid (field reason : String)
deriving Repr

/-- The sentence that reports a setting which is out of bounds. -/
def ConfigError.message? : ConfigError → Option String
  | .unreadable => none
  | .parse fault => fault.message?
  | .invalid field reason => some ("Invalid value for " ++ field ++ ": " ++ reason)

/-! ### Waiting between attempts -/

/-- How long to wait after a failed attempt, in milliseconds. -/
inductive Backoff where
  | fixed (delay : UInt64)
  | exponential (initial greatest : UInt64) (factor : Float)
deriving Repr

namespace Backoff

/-- Half a second, growing by a factor of two up to ten seconds. -/
def standard : Backoff := .exponential 500 10000 2.0

instance : Inhabited Backoff := ⟨standard⟩

/-- The factor of a backoff that gives none. -/
def standardFactor : Float := 2.0

/-- A product times a power, by squaring the base for each binary digit of the exponent from the
lowest on. -/
def timesPower (product base : Float) (exponent : Nat) : Float :=
  let product := if exponent % 2 = 1 then product * base else product
  if exponent / 2 = 0 then product else timesPower product (base * base) (exponent / 2)
termination_by exponent
decreasing_by omega

/-- The lesser of two doubles; one that is not a number gives way to the other. -/
def lesser (left right : Float) : Float :=
  if left.isNaN then right else if right.isNaN then left else if right < left then right else left

/-- The greater of two doubles; one that is not a number gives way to the other. -/
def greater (left right : Float) : Float :=
  if left.isNaN then right else if right.isNaN then left else if left < right then right else left

/-- The greatest exponent of a factor. -/
def greatestExponent : Nat := UInt32.size / 2 - 1

/-- The milliseconds to wait after the failed attempt with this number, the first being 1. The time
is computed in doubles and cut off to whole milliseconds at the end. -/
def delayAfter (backoff : Backoff) (attempt : UInt32) : UInt64 :=
  match backoff with
  | .fixed delay => delay
  | .exponential initial greatest factor =>
    let grown := initial.toFloat * timesPower 1 factor (min (attempt.toNat - 1) greatestExponent)
    (greater (lesser grown greatest.toFloat) 0).toUInt64

/-- Reports the first setting of a backoff that is out of bounds. -/
def validate : Backoff → Except ConfigError Unit
  | .fixed _ => .ok ()
  | .exponential initial greatest factor =>
    if !factor.isFinite || factor < 1 then
      .error (.invalid "backoff.multiplier"
        ("must be a finite number >= 1, got " ++ Decimal.text .message factor))
    else if greatest < initial then
      .error (.invalid "backoff.max_delay_ms"
        (toString greatest.toNat ++ " is below initial_delay_ms " ++ toString initial.toNat))
    else .ok ()

end Backoff

/-! ### All settings -/

/-- The settings of the mint flow. -/
structure FlowConfig where
  /-- The validity of a proposal, in seconds. -/
  validitySeconds : UInt64
  /-- How long one attempt may wait for a verdict, in milliseconds. -/
  timeoutMillis : UInt64
  /-- The number of attempts before giving up, the first one included. -/
  maxAttempts : UInt32
  backoff : Backoff
deriving Repr

namespace FlowConfig

/-- A day of validity, half a minute of waiting and three attempts. -/
def standard : FlowConfig := ⟨86400, 30000, 3, .standard⟩

instance : Inhabited FlowConfig := ⟨standard⟩

/-- Reports the first setting that is out of bounds. -/
def validate (config : FlowConfig) : Except ConfigError Unit :=
  if config.maxAttempts = 0 then
    .error (.invalid "max_attempts" "at least one attempt is required")
  else if config.timeoutMillis = 0 then
    .error (.invalid "finality_timeout_ms" "must be positive")
  else if config.validitySeconds = 0 then
    .error (.invalid "validity_window_secs" "must be positive")
  else config.backoff.validate

/-- The validity of a proposal as a span, unless it is longer than the longest span. -/
def validity (config : FlowConfig) : Option Span :=
  Span.ofSeconds? config.validitySeconds.toNat

end FlowConfig

end TokenLedger
