import SchemaTypings.Binary64.Shortest

/-!
# Written forms of floating-point numbers

Both forms write the shortest digits that read back. They differ in three decisions, which `Layout`
holds: where positional writing ends, whether a whole number keeps a `.0`, and which digits stand for a
number halfway between two shortest ones.
-/

namespace SchemaTypings

/-- How the digits of a number are laid out. -/
structure Layout where
  /-- Least and greatest power of ten of a leading digit that is written positionally; `none` for
  all of them. -/
  positional : Option (Int × Int)
  /-- A whole number is written with a fraction `.0`. -/
  wholeFraction : Bool
  /-- The digits of a number halfway between two shortest ones. -/
  halfway : Binary64.Halfway

namespace Layout

/-- Numbers in JSON text: positional from `10 ^ -5` to `10 ^ 15`, always with a fraction or an
exponent, and an even last digit where there is a choice. -/
def json : Layout := ⟨some (-5, 15), true, .toEven⟩

/-- Numeric literal types: never an exponent, whole numbers without a fraction, and the greater
magnitude where there is a choice. -/
def literal : Layout := ⟨none, false, .away⟩

/-- Whether a leading digit at this power of ten is written positionally. -/
def isPositional (layout : Layout) (power : Int) : Bool :=
  match layout.positional with
  | none => true
  | some (least, greatest) => least ≤ power && power ≤ greatest

/-- `n` zeros. -/
def zeros (n : Nat) : String := String.ofList (List.replicate n '0')

/-- Digits with a point placed so that the last one stands at `10 ^ exponent`. -/
def writePositional (layout : Layout) (digits : List Char) (exponent : Int) : String :=
  let fraction := (-exponent).toNat
  if 0 ≤ exponent then
    String.ofList digits ++ zeros exponent.toNat ++ (if layout.wholeFraction then ".0" else "")
  else if fraction < digits.length then
    String.ofList (digits.take (digits.length - fraction)) ++ "." ++
      String.ofList (digits.drop (digits.length - fraction))
  else "0." ++ zeros (fraction - digits.length) ++ String.ofList digits

/-- One digit, a point before the others, and the power of ten with its sign. -/
def writeScientific (digits : List Char) (power : Int) : String :=
  let lead := String.ofList (digits.take 1)
  let fraction := if digits.length ≤ 1 then "" else "." ++ String.ofList (digits.drop 1)
  lead ++ fraction ++ "e" ++ (if power < 0 then "-" else "+") ++ toString power.natAbs

/-- The text of a number. -/
def write (layout : Layout) (x : Binary64) : String :=
  let sign := if x.negative then "-" else ""
  let decimal := x.shortest layout.halfway
  let digits := Nat.toDigits 10 decimal.digits
  let power := decimal.exponent + (digits.length : Int) - 1
  sign ++
    if layout.isPositional power then layout.writePositional digits decimal.exponent
    else writeScientific digits power

end Layout

end SchemaTypings
