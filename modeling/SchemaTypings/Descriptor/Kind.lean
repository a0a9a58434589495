import SchemaTypings.Descriptor.Basic

/-!
# Kinds of descriptors

Several keys may ask for several kinds at once, so the kinds are tried in a fixed order and the first
that fits is the kind of the node: null, any, function, array with items, union, reference, string,
boolean, object, integer, number, and last a constant value.
-/

namespace SchemaTypings

/-- The kind of a descriptor with the part that is special to it. -/
inductive Kind where
  | null
  | any
  | function
  | array (items : Descriptor)
  | union (choices : List Descriptor)
  | reference (target : String)
  | string
  | enumString (choices : List EnumChoice)
  | boolean
  | object
  | integer
  | number
  | staticValue (value : Json)

namespace Kind

/-- The name of a kind in messages. -/
def name : Kind → String
  | null => "null"
  | any => "any"
  | function => "function"
  | array _ => "array"
  | union _ => "union"
  | reference _ => "reference"
  | string => "string"
  | enumString _ => "enum-string"
  | boolean => "boolean"
  | object => "object"
  | integer => "integer"
  | number => "number"
  | staticValue _ => "static-value"

/-- The kinds a property of a namespace may have. -/
def isConstantLike : Kind → Bool
  | null | any | function | union _ => false
  | array _ | reference _ | string | enumString _ | boolean | object | integer | number
  | staticValue _ => true

end Kind

namespace Descriptor

/-- The kind that a plain type name stands for. -/
def simpleKind? (d : Descriptor) : Option Kind :=
  match d.typeName with
  | some "string" =>
    match d.enumChoices with
    | some choices => some (.enumString choices)
    | none => some .string
  | some "boolean" => some .boolean
  | some "object" => some .object
  | some "integer" => some .integer
  | some "number" => some .number
  | _ => none

/-- The kind that takes precedence over choices and references. -/
def leadingKind? (d : Descriptor) : Option Kind :=
  match d.typeName with
  | some "null" => some .null
  | some "any" => some .any
  | some "function" => some .function
  | some "array" => d.items.map .array
  | _ => none

/-- The kind of a node, `none` if nothing fits. -/
def kind? (d : Descriptor) : Option Kind :=
  d.leadingKind? <|> d.choices.map .union <|> d.reference.map .reference <|> d.simpleKind? <|>
    d.value.map .staticValue

end Descriptor

end SchemaTypings
