import SchemaTypings.Binary64.Basic

/-!
# The shortest decimal that reads back

The reals that round to a number form an interval around it, its ends included when the significand
is even. `Binary64.shortest` tries grids of one, two, ... seventeen digits and takes, on the first
grid with a point in the interval, the point nearest to the number. Only the two neighbours of the
number on a grid need a test: if any point of the grid lies in the interval, one of them does. A number
halfway between two neighbours that both read back leaves a choice, which `Halfway` settles.
-/

namespace SchemaTypings

namespace Decimal

/-- The same value without trailing zero digits. -/
def trimZeros (d : Decimal) : Decimal :=
  go (Binary64.decimalLength d.digits) d
where
  /-- Drop at most `fuel` trailing zeros. -/
  go : Nat → Decimal → Decimal
    | 0, d => d
    | fuel + 1, d =>
      if d.digits % 10 = 0 then go fuel ⟨d.digits / 10, d.exponent + 1⟩ else d

end Decimal

namespace Binary64

/-- Which neighbour a number halfway between two is written as. -/
inductive Halfway where
  /-- The one with an even last digit. -/
  | toEven
  /-- The one farther from zero. -/
  | away
deriving DecidableEq

/-- Whether the lower of two neighbours, given by its last digits, is taken halfway between them. -/
def Halfway.takesLower (halfway : Halfway) (lower : Nat) : Bool :=
  match halfway with
  | toEven => lower % 2 == 0
  | away => false

/-- The greatest power of ten not above the quotient `num / den`, by its exponent. -/
def decimalExponent (num den : Nat) : Int :=
  if den ≤ num then (decimalLength (num / den) : Int) - 1
  else -(decimalLength ((den + num - 1) / num - 1) : Int)

/-- A quarter of the distance between neighbouring significands is the unit in which the interval of
a number is measured: below a power of two the neighbour is only half as far away. -/
def intervalEnds (x : Binary64) : Nat × Nat :=
  let below := if x.significand = leastFull ∧ minExponent < x.exponent then 1 else 2
  (4 * x.significand - below, 4 * x.significand + 2)

/-- The multiple of `10 ^ grid` nearest to the number among those that round to it. -/
def nearestOnGrid? (x : Binary64) (halfway : Halfway) (grid : Int) : Option Nat :=
  -- a quarter of a significand step and a step of the grid, over one common denominator
  let quarter := Nat.pow 2 (x.exponent - 2).toNat * Nat.pow 10 (-grid).toNat
  let step := Nat.pow 10 grid.toNat * Nat.pow 2 (2 - x.exponent).toNat
  let value := 4 * x.significand * quarter
  let (low, high) := x.intervalEnds
  let inside (c : Nat) : Bool :=
    if x.significand % 2 = 0 then low * quarter ≤ c * step && c * step ≤ high * quarter
    else low * quarter < c * step && c * step < high * quarter
  let below := value / step
  let above := below + 1
  let nearer :=
    let down := value - below * step
    let up := above * step - value
    if down < up || (down == up && halfway.takesLower below) then below else above
  match 0 < below && inside below, inside above with
  | true, true => some nearer
  | true, false => some below
  | false, true => some above
  | false, false => none

/-- The shortest decimal numeral that rounds to the number, the nearest among several. -/
def shortest (x : Binary64) (halfway : Halfway) : Decimal :=
  if x.significand = 0 then ⟨0, 0⟩
  else
    let (num, den) := rescale x.significand 1 (-x.exponent)
    let top := decimalExponent num den
    let found := (List.range 17).findSome? fun n : Nat =>
      let grid := top - (n : Int)
      (x.nearestOnGrid? halfway grid).map fun digits => (⟨digits, grid⟩ : Decimal)
    (found.getD ⟨0, 0⟩).trimZeros

end Binary64

end SchemaTypings
