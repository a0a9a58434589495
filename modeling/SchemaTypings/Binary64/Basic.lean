/-!
# Binary floating point with 53 significant bits

A finite number is a sign and a natural significand scaled by a power of two, so every operation
here is exact arithmetic on `Nat` and `Int`.

* `Binary64.ofRatio?` takes a positive quotient to the nearest number, a tie to the even
  significand, and answers `none` above the largest finite number.
* `Binary64.ofDecimal?` reads `digits * 10 ^ exponent` that way.
* `==` compares values, so the two zeros are equal.
-/

namespace SchemaTypings

/-- A decimal numeral `digits * 10 ^ exponent`. -/
structure Decimal where
  digits : Nat
  exponent : Int
deriving DecidableEq

/-- The finite number `± significand * 2 ^ exponent`. -/
structure Binary64 where
  negative : Bool
  significand : Nat
  exponent : Int
deriving DecidableEq

namespace Binary64

/-- Significands stay below `2 ^ precision`. -/
def precision : Nat := 53

/-- The least significand that fills the precision. -/
def leastFull : Nat := Nat.pow 2 (precision - 1)

/-- The exponent of the numbers closest to zero. -/
def minExponent : Int := -1074

/-- The exponent of the largest numbers. -/
def maxExponent : Int := 971

/-- Zero with a sign. -/
def zero (negative : Bool) : Binary64 := ⟨negative, 0, minExponent⟩

/-- Two numbers are equal when their values are; zero has no sign in this comparison. -/
instance : BEq Binary64 where
  beq x y :=
    x.significand == y.significand &&
      (x.significand == 0 || (x.exponent == y.exponent && x.negative == y.negative))

/-! ## Rounding -/

/-- The quotient rounded to the nearest natural number, a half to the even one. -/
def roundHalfEven (num den : Nat) : Nat :=
  let floor := num / den
  let twice := 2 * (num % den)
  if twice < den then floor
  else if den < twice then floor + 1
  else floor + floor % 2

/-- Numerator and denominator of `num / den / 2 ^ shift`. -/
def rescale (num den : Nat) (shift : Int) : Nat × Nat :=
  (num * Nat.pow 2 (-shift).toNat, den * Nat.pow 2 shift.toNat)

/-- The exponent at which the significand of `num / den` fills the precision, if it is not below the
least one. -/
def exponentFor (num den : Nat) : Int :=
  let guess : Int := (num.log2 : Int) - (den.log2 : Int) - (precision - 1 : Nat)
  let (n, d) := rescale num den guess
  max minExponent (if n / d < leastFull then guess - 1 else guess)

/-- The number nearest to a positive quotient, `none` above the finite range. -/
def ofRatio? (negative : Bool) (num den : Nat) : Option Binary64 :=
  let exponent := exponentFor num den
  let (n, d) := rescale num den exponent
  let rounded := roundHalfEven n d
  let result : Binary64 :=
    if rounded = 2 * leastFull then ⟨negative, leastFull, exponent + 1⟩
    else ⟨negative, rounded, exponent⟩
  if maxExponent < result.exponent then none else some result

/-- The number of decimal digits of a natural number; zero has none. -/
def decimalLength (n : Nat) : Nat :=
  if n = 0 then 0 else (Nat.toDigits 10 n).length

/-- The number nearest to a decimal numeral, `none` above the finite range. Numerals far outside
the range are settled by their decimal length alone. -/
def ofDecimal? (negative : Bool) (d : Decimal) : Option Binary64 :=
  let magnitude := d.exponent + decimalLength d.digits
  if d.digits = 0 || magnitude < -330 then some (zero negative)
  else if 320 < magnitude then none
  else if 0 ≤ d.exponent then ofRatio? negative (d.digits * Nat.pow 10 d.exponent.toNat) 1
  else ofRatio? negative d.digits (Nat.pow 10 (-d.exponent).toNat)

/-- The number nearest to an integer below `2 ^ 1024` in size. -/
def ofInt (i : Int) : Binary64 :=
  (ofDecimal? (i < 0) ⟨i.natAbs, 0⟩).getD (zero false)

end Binary64

end SchemaTypings
