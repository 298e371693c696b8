/-!
Doubles from text.

A decimal has an optional sign, digits with at most one point before, among or after them, and an
optional exponent; `inf`, `infinity` and `nan` are read in any case of their letters. The result is
the double nearest to the decimal, whatever the number of digits.
-/

namespace TokenLedger.Decimal

/-- The number that digits stand for. -/
def digitsNumber (digits : List Char) : Nat :=
  digits.foldl (fun number digit => number * 10 + (digit.toNat - '0'.toNat)) 0

/-- A list of characters after its sign, if it has one, and whether that is a minus. -/
def takeSign : List Char → Bool × List Char
  | '-' :: rest => (true, rest)
  | '+' :: rest => (false, rest)
  | chars => (false, chars)

/-- The exponent that stands from here to the end; zero if nothing is left. -/
def exponent? : List Char → Option Int
  | [] => some 0
  | mark :: rest =>
    let (negative, digits) := takeSign rest
    if (mark = 'e' ∨ mark = 'E') ∧ !digits.isEmpty ∧ digits.all Char.isDigit then
      some (if negative then -(digitsNumber digits : Int) else digitsNumber digits)
    else none

/-- A power of ten above all doubles; its inverse is nearer to zero than to any other double. -/
def farthest : Nat := 400

/-- The double nearest to `number` times ten to the power `exponent`; `length` is a number of digits
that `number` does not exceed. -/
def nearest (number length : Nat) (exponent : Int) : Float :=
  if number = 0 ∨ exponent + length < -farthest then 0
  else if farthest < exponent then 1 / 0
  else Float.ofScientific number (exponent < 0) exponent.natAbs

/-- Reads what stands after the sign. -/
def magnitude? (chars : List Char) : Option Float :=
  let word := String.ofList (chars.map Char.toLower)
  if word = "inf" ∨ word = "infinity" then some (1 / 0)
  else if word = "nan" then some (0 / 0)
  else
    let whole := chars.takeWhile Char.isDigit
    let rest := chars.dropWhile Char.isDigit
    let (fraction, rest) :=
      match rest with
      | '.' :: rest => (rest.takeWhile Char.isDigit, rest.dropWhile Char.isDigit)
      | rest => ([], rest)
    let digits := whole ++ fraction
    if digits.isEmpty then none
    else (exponent? rest).map fun exponent =>
      nearest (digitsNumber digits) digits.length (exponent - fraction.length)

/-- The double that a text stands for, if it is a decimal. -/
def parse? (text : String) : Option Float :=
  let (negative, chars) := takeSign text.toList
  (magnitude? chars).map fun size => if negative then -size else size

end TokenLedger.Decimal
