import TokenLedger.Json.Fault
/-!
Reading numbers.

A numeral is an optional minus, digits without leading zeros, an optional point with digits and an
optional exponent with digits. Its digits are collected into a significand as long as that fits
sixty-four bits; those that do not fit count only by their place. A numeral without point and
exponent whose digits all fit is a whole number; any other is the double that one multiplication or
division of the significand by a power of ten gives. A number beyond the doubles is refused.
-/

namespace TokenLedger.Json

/-- The parts of a numeral. -/
structure Numeral where
  negative : Bool
  whole : List Char
  fraction : Option (List Char)
  /-- Whether the exponent is negative, and its digits. -/
  exponent : Option (Bool × List Char)
deriving DecidableEq, Repr

/-- The value of a digit. -/
def digitValue (digit : Char) : Nat := digit.toNat - '0'.toNat

/-- The value of a list of digits. -/
def digitsValue (digits : List Char) : Nat :=
  digits.foldl (fun number digit => number * 10 + digitValue digit) 0

/-- The digits that a list of characters begins with, and what follows them. -/
def digitRun (chars : List Char) : List Char × List Char :=
  (chars.takeWhile Char.isDigit, chars.dropWhile Char.isDigit)

/-- At least one digit, and what follows. -/
def someDigits (chars : List Char) : Except Flaw (List Char × List Char) :=
  match digitRun chars with
  | ([], []) => .error .truncated
  | ([], _) => .error .malformed
  | run => .ok run

namespace Numeral

/-! ### The parts of a numeral -/

/-- The digits before the point: a zero alone, or digits that do not begin with one. -/
def scanWhole (chars : List Char) : Except Flaw (List Char × List Char) :=
  match someDigits chars with
  | .ok ('0' :: _ :: _, _) => .error .malformed
  | run => run

/-- The point and the digits after it, if a point follows. -/
def scanFraction : List Char → Except Flaw (Option (List Char) × List Char)
  | '.' :: rest => (someDigits rest).map fun (digits, left) => (some digits, left)
  | other => .ok (none, other)

/-- The sign and the digits of the exponent, if an exponent follows. -/
def scanExponent : List Char → Except Flaw (Option (Bool × List Char) × List Char)
  | 'e' :: rest | 'E' :: rest =>
    let (negative, rest) := match rest with
      | '-' :: rest => (true, rest)
      | '+' :: rest => (false, rest)
      | rest => (false, rest)
    (someDigits rest).map fun (digits, left) => (some (negative, digits), left)
  | other => .ok (none, other)

/-- The numeral that a list of characters begins with, and what follows it. -/
def scan (chars : List Char) : Except Flaw (Numeral × List Char) := do
  let (negative, rest) := match chars with
    | '-' :: rest => (true, rest)
    | other => (false, other)
  let (whole, rest) ← scanWhole rest
  let (fraction, rest) ← scanFraction rest
  let (exponent, rest) ← scanExponent rest
  return (⟨negative, whole, fraction, exponent⟩, rest)

/-! ### The value of a numeral -/

/-- The significand after digits, as many as fit, and how many of them did not. -/
def collect : Nat → List Char → Nat × Nat
  | significand, [] => (significand, 0)
  | significand, digit :: rest =>
    let longer := significand * 10 + digitValue digit
    if longer < UInt64.size then collect longer rest else (significand, rest.length + 1)

/-- The power of ten in a table that reaches as far as the doubles. -/
def powerOfTen (exponent : Nat) : Float := Float.ofScientific 1 false exponent

/-- The greatest power of ten that is a double. -/
def greatestPower : Nat := 308

/-- A double times a power of ten. -/
def scale (value : Float) (exponent : Int) : Except Flaw Float :=
  if 0 ≤ exponent then
    if exponent ≤ greatestPower then
      let product := value * powerOfTen exponent.toNat
      if product.isInf then .error .malformed else .ok product
    else if value == 0 then .ok value
    else .error .malformed
  else if -exponent ≤ greatestPower then .ok (value / powerOfTen (-exponent).toNat)
  else if value == 0 then .ok value
  else scale (value / powerOfTen greatestPower) (exponent + greatestPower)
termination_by (-exponent).toNat
decreasing_by simp only [greatestPower] at *; omega

/-- Exponents are counted in thirty-two bits. -/
def exponentLimit : Nat := UInt32.size / 2

/-- The double with a significand and an exponent that the place of the point gives, and with the
exponent that is written. -/
def magnitude (significand : Nat) (place : Int) : Option (Bool × List Char) → Except Flaw Float
  | none => scale (UInt64.ofNat significand).toFloat place
  | some (negative, digits) =>
    let written := digitsValue digits
    if written < exponentLimit then
      scale (UInt64.ofNat significand).toFloat
        (if negative then place - written else place + written)
    else if significand = 0 ∨ negative then .ok 0
    else .error .malformed

/-- A whole number whose digits fit sixty-four bits. -/
def wholeNumber (negative : Bool) (significand : Nat) : Number :=
  if !negative then .natural (UInt64.ofNat significand)
  else if 0 < significand ∧ significand ≤ UInt64.size / 2 then
    .negative (Int64.ofInt (-significand))
  else .float (-(UInt64.ofNat significand).toFloat)

/-- The number that a numeral stands for. -/
def value (numeral : Numeral) : Except Flaw Number :=
  let (significand, dropped) := collect 0 numeral.whole
  match numeral.fraction, numeral.exponent, dropped with
  | none, none, 0 => .ok (wholeNumber numeral.negative significand)
  | fraction, exponent, dropped =>
    let digits := fraction.getD []
    let (significand, unused) := collect significand digits
    let place : Int := (dropped : Int) - (digits.length - unused : Nat)
    (magnitude significand place exponent).map fun size =>
      .float (if numeral.negative then -size else size)

end Numeral

end TokenLedger.Json
