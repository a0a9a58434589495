import SchemaTypings.Descriptor.Basic
import SchemaTypings.Report.Reporting

/-!
# The catalog of namespaces

Schema files declare namespaces piece by piece. `Catalog.merge` adds one fragment: the namespaces stand
in the order of first appearance, lists of entries grow at their ends, and of several descriptions,
source files or definitions of a property the first one stays. A later definition of a property is
reported.
-/

namespace SchemaTypings

/-- A piece of a namespace. -/
structure Fragment where
  space : Option String := none
  description : Option String := none
  types : List Descriptor := []
  functions : List Descriptor := []
  events : List Descriptor := []
  properties : Fields Descriptor := []
  permissions : List String := []

/-- A namespace as far as it is known. -/
structure NamespaceSchema where
  name : String
  description : Option String := none
  types : List Descriptor := []
  functions : List Descriptor := []
  events : List Descriptor := []
  properties : Fields Descriptor := []
  permissions : List String := []
  sourceFile : String

namespace NamespaceSchema

/-- The declared type with this id. -/
def findType? (schema : NamespaceSchema) (id : String) : Option Descriptor :=
  schema.types.find? fun d => d.id == some id

/-- Whether a type with this id is declared. -/
def hasType (schema : NamespaceSchema) (id : String) : Bool := (schema.findType? id).isSome

/-- Add properties, keeping and reporting those already there. -/
def addProperties (space file : String) :
    Fields Descriptor → Fields Descriptor → Reporting (Fields Descriptor)
  | known, [] => pure known
  | known, (key, d) :: rest => do
    if Fields.has key known then
      Reporting.warn (some space) (.duplicateProperty key file)
      addProperties space file known rest
    else addProperties space file (known ++ [(key, d)]) rest

/-- Add a fragment of the same namespace. -/
def absorb (schema : NamespaceSchema) (fragment : Fragment) (file : String) :
    Reporting NamespaceSchema := do
  let properties ← addProperties schema.name file schema.properties fragment.properties
  pure { schema with
    description := schema.description <|> fragment.description
    types := schema.types ++ fragment.types
    functions := schema.functions ++ fragment.functions
    events := schema.events ++ fragment.events
    properties
    permissions := schema.permissions ++ fragment.permissions }

@[simp] theorem absorb_name (schema : NamespaceSchema) (fragment : Fragment) (file : String) :
    (schema.absorb fragment file).value.name = schema.name := rfl

end NamespaceSchema

/-- All namespaces, in order of first appearance. -/
structure Catalog where
  namespaces : List NamespaceSchema := []

namespace Catalog

/-- The catalog without namespaces. -/
def empty : Catalog := {}

/-- The names in order of first appearance. -/
def names (catalog : Catalog) : List String := catalog.namespaces.map (·.name)

/-- The number of namespaces. -/
def size (catalog : Catalog) : Nat := catalog.namespaces.length

/-- Whether there is no namespace. -/
def isEmpty (catalog : Catalog) : Bool := catalog.namespaces.isEmpty

/-- The namespace with this name. -/
def find? (catalog : Catalog) (name : String) : Option NamespaceSchema :=
  catalog.namespaces.find? (·.name == name)

/-- Whether there is a namespace with this name. -/
def contains (catalog : Catalog) (name : String) : Bool := (catalog.find? name).isSome

/-- Whether a namespace declares a type with this id. -/
def hasType (catalog : Catalog) (name id : String) : Bool :=
  (catalog.find? name).any (·.hasType id)

/-- Add a fragment to the namespace with its name, which is opened at the end if it is new. -/
def absorb (name : String) (fragment : Fragment) (file : String) :
    List NamespaceSchema → Reporting (List NamespaceSchema)
  | [] => do
    Reporting.note (.addingNamespace name file)
    let schema ← NamespaceSchema.absorb { name, sourceFile := file } fragment file
    pure [schema]
  | schema :: rest => do
    if schema.name = name then
      Reporting.note (.mergingNamespace name file)
      let schema ← schema.absorb fragment file
      pure (schema :: rest)
    else
      let rest ← absorb name fragment file rest
      pure (schema :: rest)

/-- Merge a fragment; the answer also tells whether it was accepted. -/
def merge (catalog : Catalog) (fragment : Fragment) (file : String) :
    Reporting (Catalog × Bool) :=
  match fragment.space with
  | none => do
    Reporting.error none (.noNamespace file)
    pure (catalog, false)
  | some name => do
    let namespaces ← absorb name fragment file catalog.namespaces
    pure (⟨namespaces⟩, true)

end Catalog

end SchemaTypings
