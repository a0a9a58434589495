import SchemaTypings.Catalog.Basic
import SchemaTypings.Descriptor.Decoder

/-!
# Fragments of schema data

A fragment is written as an object, or as a list of the same parts in their order. Its outer shape has
to fit; inside its sections each entry is read on its own, and an entry that is no descriptor is
reported and left out while the others stay.
-/

namespace SchemaTypings

/-- A fragment whose entries have not been read yet. -/
structure RawFragment where
  space : Option String := none
  description : Option String := none
  types : List Json := []
  functions : List Json := []
  events : List Json := []
  properties : Fields Json := []
  permissions : List String := []

/-- A part of a fragment. -/
inductive FragmentKey where
  | space | description | types | functions | events | properties | permissions
deriving DecidableEq

namespace FragmentKey

/-- The spelling of a part. -/
def spelling : FragmentKey → String
  | space => "namespace"
  | description => "description"
  | types => "types"
  | functions => "functions"
  | events => "events"
  | properties => "properties"
  | permissions => "permissions"

/-- The parts in the order of the list form. -/
def all : List FragmentKey :=
  [space, description, types, functions, events, properties, permissions]

/-- The part with this spelling. -/
def ofString? (s : String) : Option FragmentKey := all.find? fun key => key.spelling == s

/-- Whether a list may end before this part. -/
def isRequired : FragmentKey → Bool
  | space | description => true
  | _ => false

end FragmentKey

namespace RawFragment

/-- Read one part. Only the name and the description may be `null`. -/
def readPart (raw : RawFragment) (key : FragmentKey) (value : Json) :
    Except DecodeFault RawFragment :=
  match key with
  | .space => do .ok { raw with space := ← value.orNull Json.readText }
  | .description => do .ok { raw with description := ← value.orNull Json.readText }
  | .types => do .ok { raw with types := ← value.readItems }
  | .functions => do .ok { raw with functions := ← value.readItems }
  | .events => do .ok { raw with events := ← value.readItems }
  | .properties => do .ok { raw with properties := ← value.readFields }
  | .permissions => do
    let items ← value.readItems
    .ok { raw with permissions := ← items.mapM Json.readText }

/-- Read the fields of the object form; other keys are ignored. -/
def readFields : RawFragment → Fields Json → Except DecodeFault RawFragment
  | raw, [] => .ok raw
  | raw, (key, value) :: rest =>
    match FragmentKey.ofString? key with
    | none => readFields raw rest
    | some part => do readFields (← raw.readPart part value) rest

/-- Read the elements of the list form, which has `count` elements, into the given parts. -/
def readElements (count : Nat) :
    RawFragment → List FragmentKey → List Json → Except DecodeFault RawFragment
  | raw, [], [] => .ok raw
  | _, [], _ :: _ => .error (.tooManyElements count)
  | raw, key :: _, [] => if key.isRequired then .error (.tooFewElements count) else .ok raw
  | raw, key :: keys, value :: rest => do
    readElements count (← raw.readPart key value) keys rest

/-- Read the outer shape of a fragment. -/
def ofJson : Json → Except DecodeFault RawFragment
  | .object fields => readFields {} fields
  | .array items => readElements items.length {} FragmentKey.all items
  | value => .error (.unexpected value .fragment)

end RawFragment

namespace EntryLabel

/-- The label of an entry: its id, or its name if it has no id, or its position. -/
def ofEntry (entry : Json) (index : Nat) : EntryLabel :=
  match (entry.field? "id" <|> entry.field? "name").bind Json.text? with
  | some name => named name
  | none => position index

end EntryLabel

namespace Fragment

/-- Read an entry, or report it. -/
def readEntry (part : Section) (label : EntryLabel) (space file : String) (entry : Json) :
    Reporting (Option Descriptor) :=
  match Descriptor.ofJson entry with
  | .ok d => pure (some d)
  | .error cause => do
    Reporting.error (some space) (.invalidEntry part label file cause)
    pure none

/-- Read the entries of a list section. -/
def readEntries (part : Section) (space file : String) (entries : List Json) :
    Reporting (List Descriptor) :=
  Reporting.collect
    (fun (entry, index) => readEntry part (.ofEntry entry index) space file entry)
    entries.zipIdx

/-- Read the properties. -/
def readProperties (space file : String) (entries : Fields Json) :
    Reporting (Fields Descriptor) :=
  Reporting.collect
    (fun (key, entry) => do
      let d ← readEntry .property (.named key) space file entry
      pure (d.map (key, ·)))
    entries

/-- Read the entries of a fragment of the given namespace. -/
def ofRaw (raw : RawFragment) (space file : String) : Reporting Fragment := do
  let types ← readEntries .type space file raw.types
  let functions ← readEntries .function space file raw.functions
  let events ← readEntries .event space file raw.events
  let properties ← readProperties space file raw.properties
  pure { space, description := raw.description, types, functions, events, properties,
         permissions := raw.permissions }

end Fragment

namespace Catalog

/-- Merge a fragment given as data; the answer also tells whether it was accepted. -/
def mergeValue (catalog : Catalog) (value : Json) (file : String) : Reporting (Catalog × Bool) :=
  match RawFragment.ofJson value with
  | .error cause => do
    Reporting.error none (.invalidFragment file cause)
    pure (catalog, false)
  | .ok raw =>
    match raw.space with
    | none => do
      Reporting.error none (.noNamespace file)
      pure (catalog, false)
    | some space => do
      let fragment ← Fragment.ofRaw raw space file
      catalog.merge fragment file

/-- Merge fragments one after another; the answer also counts the accepted ones. -/
def mergeValues (file : String) : Catalog → List Json → Reporting (Catalog × Nat)
  | catalog, [] => pure (catalog, 0)
  | catalog, value :: rest => do
    let (catalog, accepted) ← catalog.mergeValue value file
    let (catalog, count) ← mergeValues file catalog rest
    pure (catalog, count + accepted.toNat)

end Catalog

end SchemaTypings
