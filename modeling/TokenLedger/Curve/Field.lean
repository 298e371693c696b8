/-!
The prime field of the curve: the numbers modulo `2 ^ 255 - 19`.

Besides the ring operations the curve needs powers and square roots of quotients. `ratioRoot? u v`
is the even number `r` with `v * r ^ 2 = u`, if there is one; the two candidates differ by a factor
whose square is `-1`.
-/

namespace TokenLedger.Curve

/-- The order of the field. -/
def fieldPrime : Nat := Nat.pow 2 255 - 19

/-- The prime is not zero, so that numerals stand for members of the field. -/
instance : @NeZero Nat Zero.ofOfNat0 fieldPrime := ⟨by decide⟩

/-- A number modulo the prime. -/
abbrev Field := Fin fieldPrime

namespace Field

/-- The class of a number. -/
def ofNat (number : Nat) : Field := Fin.ofNat fieldPrime number

/-- Squares and multiplies along the bits of the exponent, the highest of `bits` bits first. -/
def powBits (base : Field) (exponent : Nat) : Nat → Field → Field
  | 0, result => result
  | bits + 1, result =>
    let squared := result * result
    powBits base exponent bits (if exponent.testBit bits then squared * base else squared)

/-- The power with an exponent below `2 ^ 256`. -/
def pow (base : Field) (exponent : Nat) : Field :=
  powBits base exponent 256 1

/-- The inverse of a number other than zero; zero for zero. -/
def inverse (number : Field) : Field :=
  pow number (fieldPrime - 2)

/-- A number whose square is `-1`. -/
def rootOfMinusOne : Field :=
  ofNat 19681161376707505956807079304988542015446066515923890162744021073123829784752

/-- A number is even or odd by its least representative; exactly one of `r` and `-r` is even
unless both are zero. -/
def isOdd (number : Field) : Bool :=
  number.val % 2 == 1

/-- The even one of a number and its negative. -/
def even (number : Field) : Field :=
  if number.isOdd then -number else number

/-- The even `r` with `v * r ^ 2 = u`, for `v` other than zero, if `u / v` is a square. -/
def ratioRoot? (u v : Field) : Option Field :=
  let cubed := v * v * v
  let seventh := cubed * cubed * v
  let candidate := u * cubed * pow (u * seventh) ((fieldPrime - 5) / 8)
  let reached := v * candidate * candidate
  if reached = u then some (even candidate)
  else if reached = -u then some (even (candidate * rootOfMinusOne))
  else none

end Field

end TokenLedger.Curve
