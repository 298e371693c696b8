/-!
The exact value of a double.

A double is stored as a sign, eleven bits of exponent and fifty-two bits of fraction. A finite one
is a whole number, its significand, times a power of two; the significands of all doubles of one
exponent but the least have their top bit set.
-/

namespace TokenLedger

/-- What a double stands for. -/
inductive Binary64 where
  | notANumber
  | infinite (negative : Bool)
  /-- The significand times two to the exponent, or its negative. -/
  | finite (negative : Bool) (significand : Nat) (exponent : Int)
deriving DecidableEq, Repr

namespace Binary64

/-- Significands have fifty-three bits at most. -/
def topBit : Nat := Nat.pow 2 52

/-- The exponent of the doubles nearest to zero. -/
def leastExponent : Int := -1074

/-- Reads the sixty-four bits of a double. -/
def ofBits (bits : Nat) : Binary64 :=
  let negative := decide (UInt64.size / 2 ≤ bits)
  let field := bits / topBit % 2048
  let fraction := bits % topBit
  if field = 0 then .finite negative fraction leastExponent
  else if field < 2047 then .finite negative (topBit + fraction) (leastExponent + (field - 1 : Nat))
  else if fraction = 0 then .infinite negative
  else .notANumber

/-- What a double stands for. -/
def ofFloat (value : Float) : Binary64 :=
  ofBits value.toBits.toNat

end Binary64

end TokenLedger
