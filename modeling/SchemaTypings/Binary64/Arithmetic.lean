import SchemaTypings.Binary64.Basic

/-!
# Decimal numerals by best effort

A decimal numeral can be turned into a number without exact arithmetic on its digits: its digits are
rounded to a number, and that is multiplied or divided by a power of ten, itself a rounded number. The
result is the nearest number where nothing had to be rounded on the way, and close to it elsewhere.

All numbers here are without a sign; `Binary64.bestEffort?` adds it at the end.
-/

namespace SchemaTypings.Binary64

/-- The number nearest to `num / den * 2 ^ shift`, `none` above the finite range. -/
def nearest? (num den : Nat) (shift : Int) : Option Binary64 :=
  if num = 0 then some (zero false)
  else
    let (n, d) := rescale num den (-shift)
    ofRatio? false n d

/-- The product, rounded. -/
def mul? (x y : Binary64) : Option Binary64 :=
  nearest? (x.significand * y.significand) 1 (x.exponent + y.exponent)

/-- The quotient, rounded. -/
def div? (x y : Binary64) : Option Binary64 :=
  nearest? x.significand y.significand (x.exponent - y.exponent)

/-- The exponent of the greatest power of ten in the finite range. -/
def greatestTen : Nat := 308

/-- The number nearest to a power of ten. -/
def ten? (exponent : Nat) : Option Binary64 := nearest? (Nat.pow 10 exponent) 1 0

/-- Divide by the greatest power of ten so many times, as long as there is something to divide. -/
def divideDown : Nat → Binary64 → Option Binary64
  | 0, x => some x
  | turns + 1, x =>
    if x.significand = 0 then some x
    else do divideDown turns (← x.div? (← ten? greatestTen))

/-- The number that a decimal numeral gives by best effort, `none` if it leaves the finite range on the
way. -/
def bestEffort? (negative : Bool) (d : Decimal) : Option Binary64 := do
  let start ← nearest? d.digits 1 0
  let result ←
    if 0 ≤ d.exponent then
      if d.digits = 0 then some start
      else if d.exponent ≤ greatestTen then start.mul? (← ten? d.exponent.toNat)
      else none
    else
      let power := (-d.exponent).toNat
      let turns := (power - 1) / greatestTen
      (← divideDown turns start).div? (← ten? (power - turns * greatestTen))
  some { result with negative }

end SchemaTypings.Binary64
