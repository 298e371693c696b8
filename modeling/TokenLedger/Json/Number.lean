import TokenLedger.Decimal.Text
/-!
The numbers of JSON.

A whole number that fits sixty-four bits, unsigned or signed, is exact. Every other number is a
double: one with a point or an exponent, one beyond sixty-four bits, and minus zero.
-/

namespace TokenLedger.Json

/-- A number. -/
inductive Number where
  | natural (value : UInt64)
  /-- A whole number below zero. -/
  | negative (value : Int64)
  | float (value : Float)
deriving Repr

namespace Number

/-- The number in JSON. -/
def text : Number → String
  | .natural value => toString value.toNat
  | .negative value => toString value.toInt
  | .float value => Decimal.text .wire value

/-- The number as a double, the nearest one if it is none. -/
def toFloat : Number → Float
  | .natural value => value.toFloat
  | .negative value => value.toFloat
  | .float value => value

end Number

end TokenLedger.Json
