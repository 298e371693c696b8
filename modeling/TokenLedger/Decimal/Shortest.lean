import TokenLedger.Decimal.Binary64
/-!
The shortest decimal that reads back as a given double.

The reals that round to a double form an interval around it, which reaches half way to either
neighbour; below a power of two the lower neighbour is half as far away. The ends belong to the
interval exactly if the significand is even.

On the grid of the multiples of a power of ten only the two neighbours of the double need to be
looked at: if any point of the grid lies in the interval, so does one of them. Grids are tried from
the coarsest on, so that the first hit has the fewest digits; of two hits the nearer is taken, and a
`Tie` says which is taken when they are equally near.
-/

namespace TokenLedger.Decimal

/-- Which of two equally near decimals is taken. -/
inductive Tie where
  /-- The one whose last digit is even. -/
  | toEven
  /-- The one further from zero. -/
  | upward
deriving DecidableEq, Repr

/-- A positive decimal: some digits, read as a whole number, times a power of ten. -/
structure Digits where
  number : Nat
  exponent : Int
deriving DecidableEq, Repr

/-! ### The interval of a double on a grid -/

/-- A double and the ends of its interval, in the units of a grid: each of the three, divided by
`unit`, is a multiple of the power of ten that the grid is made of. -/
structure Measured where
  value : Nat
  lower : Nat
  upper : Nat
  unit : Nat
  /-- Whether the ends belong to the interval. -/
  closed : Bool
deriving Repr

/-- Measures a double on the grid of the multiples of ten to the power `grid`. The three numbers are
quarters of the significand's unit, so that the ends of the interval are whole. -/
def measure (significand : Nat) (exponent grid : Int) : Measured :=
  let scale := Nat.pow 2 (exponent - 2).toNat * Nat.pow 10 (-grid).toNat
  let below :=
    if significand = Binary64.topBit ∧ exponent ≠ Binary64.leastExponent then 1 else 2
  { value := 4 * significand * scale
    lower := (4 * significand - below) * scale
    upper := (4 * significand + 2) * scale
    unit := Nat.pow 10 grid.toNat * Nat.pow 2 (2 - exponent).toNat
    closed := significand % 2 == 0 }

namespace Measured

/-- Whether a multiple of the power of ten lies in the interval. -/
def holds (measured : Measured) (multiple : Nat) : Bool :=
  let point := multiple * measured.unit
  if measured.closed then measured.lower ≤ point && point ≤ measured.upper
  else measured.lower < point && point < measured.upper

/-- The multiple that is taken when the two neighbours of the value both lie in the interval. -/
def nearer (measured : Measured) (tie : Tie) (below : Nat) : Nat :=
  match compare (2 * measured.value) ((2 * below + 1) * measured.unit) with
  | .lt => below
  | .gt => below + 1
  | .eq =>
    match tie with
    | .upward => below + 1
    | .toEven => if below % 2 = 0 then below else below + 1

/-- The neighbour of the value that lies in the interval, the nearer one if both do. -/
def pick? (measured : Measured) (tie : Tie) : Option Nat :=
  let below := measured.value / measured.unit
  match measured.holds below, measured.holds (below + 1) with
  | true, true => some (measured.nearer tie below)
  | true, false => some below
  | false, true => some (below + 1)
  | false, false => none

end Measured

/-! ### The coarsest grid with a hit -/

/-- The exponent of a power of ten that is not below the double and at most a hundred times it. -/
def coarsest (significand : Nat) (exponent : Int) : Int :=
  ((Nat.log2 significand : Int) + exponent + 1) * 30103 / 100000 + 1

/-- The first hit on the grids from `grid` on, of which at most `count` are tried. -/
def search (tie : Tie) (significand : Nat) (exponent : Int) : Nat → Int → Option Digits
  | 0, _ => none
  | count + 1, grid =>
    match (measure significand exponent grid).pick? tie with
    | some number => some ⟨number, grid⟩
    | none => search tie significand exponent count (grid - 1)

/-- The digits of the shortest decimal that reads back as a double with this positive significand.
Twenty grids reach from above the double to its seventeenth digit. -/
def shortest (tie : Tie) (significand : Nat) (exponent : Int) : Digits :=
  (search tie significand exponent 20 (coarsest significand exponent)).getD ⟨significand, 0⟩

end TokenLedger.Decimal
