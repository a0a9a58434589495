import SchemaTypings.Json.Printer
import SchemaTypings.Text.Quoted

/-!
# Faults of schema data

A value that is JSON may still not have the shape a schema asks for. A fault names the value that was
found and the shape that was expected; there is no position in it.
-/

namespace SchemaTypings

/-- A shape that is asked for. -/
inductive Shape where
  | text | boolean | list | map | descriptor | fragment
deriving DecidableEq

/-- The wording of a shape. -/
def Shape.message : Shape → String
  | .text => "a string"
  | .boolean => "a boolean"
  | .list => "a sequence"
  | .map => "a map"
  | .descriptor => "struct Descriptor"
  | .fragment => "struct RawFragment"

/-- A value that is a choice between several shapes. -/
inductive Alternatives where
  | deprecation | optionality | asynchrony | additionalProperties
deriving DecidableEq

/-- The wording of a choice between shapes. -/
def Alternatives.message : Alternatives → String
  | .deprecation => "Deprecation"
  | .optionality => "Optionality"
  | .asynchrony => "Asynchrony"
  | .additionalProperties => "AdditionalProperties"

/-- Why a value is not what was asked for. -/
inductive DecodeFault where
  /-- The value has another shape. -/
  | unexpected (found : Json) (expected : Shape)
  /-- The value has none of the shapes of a choice. -/
  | noAlternative (among : Alternatives)
  /-- A key is given under both of its spellings. -/
  | duplicateKey (key : String)
  /-- A fragment written as a list lacks mandatory elements. -/
  | tooFewElements (count : Nat)
  /-- A fragment written as a list has surplus elements. -/
  | tooManyElements (count : Nat)

/-- How a message speaks of a value. -/
def Json.describe : Json → String
  | .null => "null"
  | .bool value => "boolean `" ++ toString value ++ "`"
  | .number (.integer value) => "integer `" ++ toString value ++ "`"
  | .number (.binary value) => "floating point `" ++ Layout.json.write value ++ "`"
  | .text value => "string " ++ Text.showQuoted value
  | .array _ => "sequence"
  | .object _ => "map"

/-- The wording of a fault. -/
def DecodeFault.message : DecodeFault → String
  | unexpected found expected =>
    "invalid type: " ++ found.describe ++ ", expected " ++ expected.message
  | noAlternative among => "data did not match any variant of untagged enum " ++ among.message
  | duplicateKey key => "duplicate field `" ++ key ++ "`"
  | tooFewElements count =>
    "invalid length " ++ toString count ++ ", expected struct RawFragment with 7 elements"
  | tooManyElements count =>
    "invalid length " ++ toString count ++ ", expected fewer elements in array"

end SchemaTypings
