import SchemaTypings.Descriptor.Basic
import SchemaTypings.Descriptor.DecodeFault
import SchemaTypings.Descriptor.Key

/-!
# Reading descriptors

`Descriptor.ofJson` reads the keys of an object in order and depth first, and answers the first fault.
Under a key with a meaning of its own `null` is the same as a missing key. All other keys are kept.
-/

namespace SchemaTypings

/-- Read a value that may be `null`. -/
def Json.orNull (read : Json → Except DecodeFault α) : Json → Except DecodeFault (Option α)
  | .null => .ok none
  | value => some <$> read value

namespace Json

/-- A string. -/
def readText : Json → Except DecodeFault String
  | .text value => .ok value
  | value => .error (.unexpected value .text)

/-- A boolean. -/
def readBool : Json → Except DecodeFault Bool
  | .bool value => .ok value
  | value => .error (.unexpected value .boolean)

/-- A list. -/
def readItems : Json → Except DecodeFault (List Json)
  | .array items => .ok items
  | value => .error (.unexpected value .list)

/-- An object. -/
def readFields : Json → Except DecodeFault (Fields Json)
  | .object fields => .ok fields
  | value => .error (.unexpected value .map)

end Json

/-- A flag or a text. -/
def Marker.ofJson (among : Alternatives) : Json → Except DecodeFault Marker
  | .bool on => .ok (.flag on)
  | .text value => .ok (.text value)
  | _ => .error (.noAlternative among)

namespace EnumChoice

/-- A documentation text or `null`; no answer for anything else. -/
def readDescription? : Json → Option (Option String)
  | .null => some none
  | .text value => some (some value)
  | _ => none

/-- A choice that is a string with documentation: an object with a `name`, whose other keys are
ignored. -/
def named? : Json → Option EnumChoice
  | .object fields => do
    let name ← (← Fields.find? "name" fields).text?
    match Fields.find? "description" fields with
    | none => some (named name none)
    | some value => (readDescription? value).map (named name)
  | _ => none

/-- Any value is a choice. -/
def ofJson : Json → EnumChoice
  | .text value => plain value
  | value => (named? value).getD (other value)

end EnumChoice

namespace Descriptor

mutual

/-- Read a descriptor. -/
def ofJson : Json → Except DecodeFault Descriptor
  | .object fields => readKeys false {} fields
  | value => .error (.unexpected value .descriptor)

/-- Read the fields of an object into a draft; `hosted` tells whether the host class was given. -/
def readKeys : Bool → Descriptor → List (String × Json) → Except DecodeFault Descriptor
  | _, draft, [] => .ok draft
  | hosted, draft, field :: rest => do
    let draft ← readKey hosted draft field
    readKeys (hosted || Key.ofString? field.1 == some .isInstanceOf) draft rest

/-- Read one field into a draft. -/
def readKey : Bool → Descriptor → String × Json → Except DecodeFault Descriptor
  | hosted, draft, (key, value) =>
    match Key.ofString? key with
    | none => .ok { draft with extra := draft.extra ++ [(key, value)] }
    | some .type => do .ok { draft with typeName := ← value.orNull Json.readText }
    | some .id => do .ok { draft with id := ← value.orNull Json.readText }
    | some .name => do .ok { draft with name := ← value.orNull Json.readText }
    | some .description => do .ok { draft with description := ← value.orNull Json.readText }
    | some .deprecated => do
      .ok { draft with deprecated := ← value.orNull (Marker.ofJson .deprecation) }
    | some .unsupported => do .ok { draft with unsupported := ← value.orNull Json.readBool }
    | some .optional => do
      .ok { draft with optional := ← value.orNull (Marker.ofJson .optionality) }
    | some .reference => do .ok { draft with reference := ← value.orNull Json.readText }
    | some .choices => do .ok { draft with choices := ← readListOrNull value }
    | some .value => .ok { draft with value := if value.isNull then none else some value }
    | some .enumChoices => do
      let items ← value.orNull Json.readItems
      .ok { draft with enumChoices := items.map (·.map EnumChoice.ofJson) }
    | some .items => do .ok { draft with items := ← readOrNull value }
    | some .properties => do .ok { draft with properties := ← readMapOrNull value }
    | some .patternProperties => do .ok { draft with patternProperties := ← readMapOrNull value }
    | some .additionalProperties => do
      .ok { draft with additionalProperties := ← readAdditionalOrNull value }
    | some .functions => do .ok { draft with functions := ← readListOrNull value }
    | some .isInstanceOf =>
      if hosted then .error (.duplicateKey Key.isInstanceOf.spelling)
      else do .ok { draft with isInstanceOf := ← value.orNull Json.readText }
    | some .parameters => do .ok { draft with parameters := ← readListOrNull value }
    | some .extraParameters => do .ok { draft with extraParameters := ← readListOrNull value }
    | some .returns => do .ok { draft with returns := ← readOrNull value }
    | some .asynchronous => do
      .ok { draft with asynchronous := ← value.orNull (Marker.ofJson .asynchrony) }

/-- Read a descriptor or `null`. -/
def readOrNull : Json → Except DecodeFault (Option Descriptor)
  | .null => .ok none
  | .object fields => some <$> readKeys false {} fields
  | value => .error (.unexpected value .descriptor)

/-- Read a list of descriptors or `null`. -/
def readListOrNull : Json → Except DecodeFault (Option (List Descriptor))
  | .null => .ok none
  | .array items => some <$> readAll items
  | value => .error (.unexpected value .list)

/-- Read the items of a list. -/
def readAll : List Json → Except DecodeFault (List Descriptor)
  | [] => .ok []
  | item :: rest => do
    let first ← ofJson item
    .ok (first :: (← readAll rest))

/-- Read a map of descriptors or `null`. -/
def readMapOrNull : Json → Except DecodeFault (Option (List (String × Descriptor)))
  | .null => .ok none
  | .object fields => some <$> readMap fields
  | value => .error (.unexpected value .map)

/-- Read the values of a map. -/
def readMap : List (String × Json) → Except DecodeFault (List (String × Descriptor))
  | [] => .ok []
  | field :: rest => do
    let first ← readMapField field
    .ok (first :: (← readMap rest))

/-- Read a value of a map. -/
def readMapField : String × Json → Except DecodeFault (String × Descriptor)
  | (key, value) => do .ok (key, ← ofJson value)

/-- Read what is allowed under other keys, or `null`. Whatever is wrong inside, the fault is that no
alternative fits. -/
def readAdditionalOrNull : Json → Except DecodeFault (Option (Additional Descriptor))
  | .null => .ok none
  | .bool any => .ok (some (.allowed any))
  | .object fields =>
    match readKeys false {} fields with
    | .ok schema => .ok (some (.schema schema))
    | .error _ => .error (.noAlternative .additionalProperties)
  | _ => .error (.noAlternative .additionalProperties)

end

end Descriptor

end SchemaTypings
