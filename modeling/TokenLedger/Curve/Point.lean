import TokenLedger.Bytes
import TokenLedger.Curve.Field
/-!
Points of the twisted Edwards curve `-x ^ 2 + y ^ 2 = 1 + d * x ^ 2 * y ^ 2` over the field.

A point is kept as four coordinates with `x = X / Z`, `y = Y / Z` and `T = X * Y / Z`; in them one
addition formula serves every pair of points, equal ones and the identity included.

On the wire a point is its `y` in thirty-two bytes whose highest bit is the parity of `x`
(`encode`). Reading (`decode?`) takes any `y` for which the curve has an `x`, also a `y` that is not
below the prime and a parity bit on `x = 0`.
-/

namespace TokenLedger.Curve

/-- The coefficient `-121665 / 121666` of the curve. -/
def coefficient : Field :=
  Field.ofNat 37095705934669439343138083508754565189542113879843219016388785533085940283555

/-- A point in extended coordinates. -/
structure Point where
  (x y z t : Field)

namespace Point

/-- The neutral element of addition. -/
def identity : Point := ⟨0, 1, 1, 0⟩

/-- The point with the given affine coordinates. -/
def ofAffine (x y : Field) : Point := ⟨x, y, 1, x * y⟩

/-- The sum of two points. -/
def add (p q : Point) : Point :=
  let a := (p.y - p.x) * (q.y - q.x)
  let b := (p.y + p.x) * (q.y + q.x)
  let c := p.t * coefficient * q.t
  let c := c + c
  let d := p.z * q.z
  let d := d + d
  let e := b - a
  let f := d - c
  let g := d + c
  let h := b + a
  ⟨e * f, g * h, f * g, e * h⟩

/-- A point added to itself. -/
def double (p : Point) : Point :=
  let a := p.x * p.x
  let b := p.y * p.y
  let c := p.z * p.z
  let h := a + b
  let sum := p.x + p.y
  let e := h - sum * sum
  let g := a - b
  let f := c + c + g
  ⟨e * f, g * h, f * g, e * h⟩

/-- The point with the opposite `x`. -/
def negate (p : Point) : Point := ⟨-p.x, p.y, p.z, -p.t⟩

/-- Doubles and adds along the bits of a scalar, the highest of `bits` bits first. -/
def multiplyBits (p : Point) (scalar : Nat) : Nat → Point → Point
  | 0, result => result
  | bits + 1, result =>
    let doubled := result.double
    multiplyBits p scalar bits (if scalar.testBit bits then doubled.add p else doubled)

/-- A point added to itself as often as a scalar below `2 ^ 256` says. -/
def multiply (scalar : Nat) (p : Point) : Point :=
  multiplyBits p scalar 256 identity

/-- Whether eight times the point is the identity. -/
def isSmallOrder (p : Point) : Bool :=
  let eightfold := p.double.double.double
  eightfold.x == 0 && eightfold.y == eightfold.z

/-- The point in thirty-two bytes: `y`, with the parity of `x` as the highest bit. -/
def encode (p : Point) : Bytes32 :=
  let inverse := p.z.inverse
  let x := p.x * inverse
  let y := p.y * inverse
  Bytes32.ofNat (y.val + if x.isOdd then Nat.pow 2 255 else 0)

/-- The point that thirty-two bytes stand for, if the curve has an `x` for their `y`. -/
def decode? (bytes : Bytes32) : Option Point :=
  let number := bytes.toNat
  let y := Field.ofNat (number % Nat.pow 2 255)
  let squared := y * y
  match Field.ratioRoot? (squared - 1) (coefficient * squared + 1) with
  | some x => some (ofAffine (if number.testBit 255 then -x else x) y)
  | none => none

/-- The base point: `y = 4 / 5` with an even `x`. -/
def base : Point :=
  ofAffine
    (Field.ofNat 15112221349535400772501151409588531511454012693041857206046113283949847762202)
    (Field.ofNat 46316835694926478169428394003475163141307993866256225615783033603165251855960)

end Point

end TokenLedger.Curve
