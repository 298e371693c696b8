import TokenLedger.Decimal.Shortest
/-!
Doubles as text.

Both forms in which the ledger writes a double show the shortest decimal that reads back as it. They
differ in what a `Style` decides: which numbers are written with an exponent, whether a whole number
keeps a point, and which of two equally near decimals is shown.

* `Style.wire`: the form in JSON. `0.5`, `2.0`, `-0.0`, `1e-7`, `1.8446744073709552e+19`.
* `Style.message`: the form in messages. `0.5`, `2`, `-0`, `0.0000001`, `NaN`, `-inf`.
-/

namespace TokenLedger.Decimal

/-- How a double is written. -/
structure Style where
  /-- The least power of ten of a first digit that is written without an exponent; `none` if all
  are. -/
  leastPlain : Option Int
  /-- The greatest power of ten of a first digit that is written without an exponent; `none` if all
  are. -/
  greatestPlain : Option Int
  /-- What follows the digits of a whole number that is written without an exponent. -/
  wholeEnd : String
  tie : Tie
deriving DecidableEq, Repr

namespace Style

/-- In JSON a number is plain from a hundred-thousandth to below ten to the sixteenth, and a whole
number ends in a point and a zero. -/
def wire : Style := ⟨some (-5), some 15, ".0", .toEven⟩

/-- In messages every number is plain and a whole number has no point. -/
def message : Style := ⟨none, none, "", .upward⟩

/-- Whether a number with its first digit at this power of ten is written without an exponent. -/
def isPlain (style : Style) (first : Int) : Bool :=
  style.leastPlain.all (· ≤ first) && style.greatestPlain.all (first ≤ ·)

end Style

/-- Zeros. -/
def zeros (count : Nat) : String := "".pushn '0' count

/-- A positive decimal without an exponent. -/
def plainText (wholeEnd : String) (digits : Digits) : String :=
  let shown := toString digits.number
  if 0 ≤ digits.exponent then shown ++ zeros digits.exponent.toNat ++ wholeEnd
  else
    let places := (-digits.exponent).toNat
    if places < shown.length then
      String.ofList (shown.toList.take (shown.length - places)) ++ "."
        ++ String.ofList (shown.toList.drop (shown.length - places))
    else "0." ++ zeros (places - shown.length) ++ shown

/-- A positive decimal with one digit before the point and an exponent. -/
def scientificText (first : Int) (digits : Digits) : String :=
  let sign := if first < 0 then "-" else "+"
  match (toString digits.number).toList with
  | lead :: rest =>
    lead.toString ++ (if rest.isEmpty then "" else "." ++ String.ofList rest)
      ++ "e" ++ sign ++ toString first.natAbs
  | [] => ""

/-- A positive decimal in a style. -/
def digitsText (style : Style) (digits : Digits) : String :=
  let first := digits.exponent + ((toString digits.number).length - 1 : Nat)
  if style.isPlain first then plainText style.wholeEnd digits else scientificText first digits

/-- A double in a style. -/
def text (style : Style) (value : Float) : String :=
  match Binary64.ofFloat value with
  | .notANumber => "NaN"
  | .infinite negative => (if negative then "-" else "") ++ "inf"
  | .finite negative significand exponent =>
    (if negative then "-" else "")
      ++ (if significand = 0 then "0" ++ style.wholeEnd
        else digitsText style (shortest style.tie significand exponent))

end TokenLedger.Decimal
