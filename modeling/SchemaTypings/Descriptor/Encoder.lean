import SchemaTypings.Descriptor.Basic
import SchemaTypings.Descriptor.Key
import SchemaTypings.Json.Printer

/-!
# Writing descriptors

`Descriptor.toJson` writes the present keys in their fixed order and then the unknown ones as they
came. `Descriptor.label` is the short name of a node in messages.
-/

namespace SchemaTypings

/-- A flag or a text as JSON. -/
def Marker.toJson : Marker → Json
  | flag on => .bool on
  | text value => .text value

/-- A choice as JSON. -/
def EnumChoice.toJson : EnumChoice → Json
  | plain value => .text value
  | named name none => .object [("name", .text name)]
  | named name (some description) =>
    .object [("name", .text name), ("description", .text description)]
  | other value => value

namespace Descriptor

/-- A key with its value, if there is one. -/
def field (key : Key) (value : Option Json) : Fields Json :=
  match value with
  | some value => [(key.spelling, value)]
  | none => []

mutual

/-- A descriptor as JSON. -/
def toJson : Descriptor → Json
  | ⟨typeName, id, name, description, deprecated, unsupported, optional, reference, choices, value,
      enumChoices, items, properties, patternProperties, additionalProperties, functions,
      isInstanceOf, parameters, extraParameters, returns, asynchronous, extra⟩ =>
    .object (
      field .type (typeName.map .text) ++
      field .id (id.map .text) ++
      field .name (name.map .text) ++
      field .description (description.map .text) ++
      field .deprecated (deprecated.map Marker.toJson) ++
      field .unsupported (unsupported.map .bool) ++
      field .optional (optional.map Marker.toJson) ++
      field .reference (reference.map .text) ++
      field .choices (listToJson? choices) ++
      field .value value ++
      field .enumChoices (enumChoices.map fun choices => .array (choices.map EnumChoice.toJson)) ++
      field .items (toJson? items) ++
      field .properties (mapToJson? properties) ++
      field .patternProperties (mapToJson? patternProperties) ++
      field .additionalProperties (additionalToJson? additionalProperties) ++
      field .functions (listToJson? functions) ++
      field .isInstanceOf (isInstanceOf.map .text) ++
      field .parameters (listToJson? parameters) ++
      field .extraParameters (listToJson? extraParameters) ++
      field .returns (toJson? returns) ++
      field .asynchronous (asynchronous.map Marker.toJson) ++
      extra)

/-- A present descriptor as JSON. -/
def toJson? : Option Descriptor → Option Json
  | none => none
  | some d => some (toJson d)

/-- A present list as JSON. -/
def listToJson? : Option (List Descriptor) → Option Json
  | none => none
  | some ds => some (.array (listToJson ds))

/-- The items of a list as JSON. -/
def listToJson : List Descriptor → List Json
  | [] => []
  | d :: ds => toJson d :: listToJson ds

/-- A present map as JSON. -/
def mapToJson? : Option (List (String × Descriptor)) → Option Json
  | none => none
  | some entries => some (.object (mapToJson entries))

/-- The entries of a map as JSON. -/
def mapToJson : List (String × Descriptor) → List (String × Json)
  | [] => []
  | entry :: rest => entryToJson entry :: mapToJson rest

/-- An entry of a map as JSON. -/
def entryToJson : String × Descriptor → String × Json
  | (key, d) => (key, toJson d)

/-- What is allowed under other keys as JSON. -/
def additionalToJson? : Option (Additional Descriptor) → Option Json
  | none => none
  | some additional => some (additionalToJson additional)

/-- A flag or a descriptor as JSON. -/
def additionalToJson : Additional Descriptor → Json
  | .allowed any => .bool any
  | .schema d => toJson d

end

/-- The name of the node, or else its JSON text: in full up to 80 bytes, otherwise its first 77
characters. -/
def label (d : Descriptor) : String :=
  match d.identifier? with
  | some name => name
  | none =>
    let text := d.toJson.write
    if 80 < text.utf8ByteSize then String.ofList (text.toList.take 77) ++ "..." else text

end Descriptor

end SchemaTypings
