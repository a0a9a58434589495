import SchemaTypings.Binary64.Basic
import SchemaTypings.Fields

/-!
# JSON values

Objects keep their keys in order, since the order of members decides the order of everything that is
generated from them. A number is an integer where its text is one, and a binary floating-point
number otherwise.
-/

namespace SchemaTypings

/-- A number as its text gives it. -/
inductive JsonNumber where
  /-- An integer that fits 64 bits, signed or unsigned. -/
  | integer (value : Int)
  /-- Any other number. -/
  | binary (value : Binary64)
deriving DecidableEq

namespace JsonNumber

/-- Integers of 64 bits with a sign lie below this bound, and not below its negation. -/
def signedBound : Nat := 9223372036854775808

/-- Integers of 64 bits without a sign lie below this bound. -/
def unsignedBound : Nat := 18446744073709551616

end JsonNumber

/-- A JSON value. -/
inductive Json where
  | null
  | bool (value : Bool)
  | number (value : JsonNumber)
  | text (value : String)
  | array (items : List Json)
  | object (fields : List (String × Json))

namespace Json

/-- Whether the value is `null`. -/
def isNull : Json → Bool
  | .null => true
  | _ => false

/-- The text of a string value. -/
def text? : Json → Option String
  | .text value => some value
  | _ => none

/-- The items of a list. -/
def items? : Json → Option (List Json)
  | .array items => some items
  | _ => none

/-- The fields of an object. -/
def fields? : Json → Option (Fields Json)
  | .object fields => some fields
  | _ => none

/-- The value under a key of an object. -/
def field? (key : String) (value : Json) : Option Json :=
  value.fields?.bind (Fields.find? key)

mutual

/-- Structural equality: keys in the same order, numbers of the same form. -/
def same : Json → Json → Bool
  | .null, .null => true
  | .bool a, .bool b => a == b
  | .number a, .number b => decide (a = b)
  | .text a, .text b => a == b
  | .array as, .array bs => sameItems as bs
  | .object as, .object bs => sameFields as bs
  | _, _ => false

/-- Item by item. -/
def sameItems : List Json → List Json → Bool
  | [], [] => true
  | a :: as, b :: bs => same a b && sameItems as bs
  | _, _ => false

/-- Field by field, in order. -/
def sameFields : List (String × Json) → List (String × Json) → Bool
  | [], [] => true
  | a :: as, b :: bs => sameField a b && sameFields as bs
  | _, _ => false

/-- Key and value. -/
def sameField : String × Json → String × Json → Bool
  | (j, a), (k, b) => j == k && same a b

end

instance : BEq Json := ⟨same⟩

theorem text_beq_text (a b : String) : (Json.text a == Json.text b) = (a == b) := by
  show same (.text a) (.text b) = (a == b)
  rw [same]

end Json

end SchemaTypings
