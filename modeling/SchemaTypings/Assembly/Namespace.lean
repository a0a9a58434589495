import SchemaTypings.Typing.Event
import SchemaTypings.Typing.Function

/-!
# The body of a namespace

The entries of a namespace become declarations section by section: types, functions, events and
properties. Each entry sees the declarations made before it. A declaration whose name is taken, in the
same one of the two spaces of types and values, is reported and left out, unless declarations of its
form may repeat.
-/

namespace SchemaTypings

namespace Body

/-- Append declarations to a body, leaving out those whose name is taken. -/
def push (space : String) : List Declaration → List Declaration → Reporting (List Declaration)
  | body, [] => pure body
  | body, d :: rest => do
    if !d.mayRepeat && body.any (·.sharesName d) then
      Reporting.warn (some space) (.duplicateDeclaration (space ++ "." ++ d.name))
      push space body rest
    else push space (body ++ [d]) rest

end Body

namespace EntryTyping

/-- The declaration of a type entry. -/
def typeEntry (d : Descriptor) (scope : Scope) : Reporting (Option Declaration) :=
  match d.kind? with
  | some (.reference target) => do
    scope.warn (.typeMerging d.label target)
    pure none
  | some .function => do
    match ← scope.inlineType d with
    | none => pure none
    | some type =>
      match d.id with
      | some id => pure (some (d.declared id (.alias type)))
      | none =>
        scope.error (.functionTypeWithoutId d.label)
        pure none
  | some (.staticValue _) => scope.declaration d .namespace
  | _ => scope.declaration d .interface

/-- The declarations of an event entry. -/
def eventEntry (d : Descriptor) (scope : Scope) : Reporting (Option Declaration) :=
  if d.isUnsupported then do
    scope.warn (.unsupportedEvent (scope.space ++ "." ++ d.label))
    pure none
  else EventTyping.expand d scope

/-- The declaration of a property entry. -/
def propertyEntry (key : String) (d : Descriptor) (scope : Scope) :
    Reporting (Option Declaration) :=
  let path := scope.space ++ "." ++ key
  if d.isUnsupported then do
    scope.warn (.unsupportedProperty path)
    pure none
  else match d.kind? with
    | some (.staticValue _) => scope.declaration { d with name := some key } .namespace
    | some kind =>
      if kind.isConstantLike then do
        let type ← scope.inlineType d
        pure (type.map fun type => d.declared key (.const type))
      else do
        scope.warn (.unusablePropertyKind path kind.name)
        pure none
    | none => do
      scope.warn (.unusablePropertyKind path "unknown")
      pure none

end EntryTyping

/-- An entry of a namespace. -/
inductive Entry where
  | type (d : Descriptor)
  | function (d : Descriptor)
  | event (d : Descriptor)
  | property (key : String) (d : Descriptor)

/-- The declarations that an entry asks for. -/
def Entry.declarations (entry : Entry) (scope : Scope) : Reporting (List Declaration) :=
  match entry with
  | type d => return (← EntryTyping.typeEntry d scope).toList
  | function d => FunctionTyping.expand d scope
  | event d => return (← EntryTyping.eventEntry d scope).toList
  | property key d => return (← EntryTyping.propertyEntry key d scope).toList

namespace NamespaceSchema

/-- The entries in the order of their sections. -/
def entries (schema : NamespaceSchema) : List Entry :=
  schema.types.map .type ++ schema.functions.map .function ++ schema.events.map .event ++
    schema.properties.map fun (key, d) => .property key d

/-- What the generators of the namespace see behind the given declarations. -/
def scope (schema : NamespaceSchema) (catalog : Catalog) (defined : List Declaration) : Scope :=
  { space := schema.name, knownTypes := schema.types, catalog, defined }

/-- Add the declarations of entries to a body. -/
def generateEntries (schema : NamespaceSchema) (catalog : Catalog) :
    List Declaration → List Entry → Reporting (List Declaration)
  | body, [] => pure body
  | body, entry :: rest => do
    let declarations ← entry.declarations (schema.scope catalog body)
    let body ← Body.push schema.name body declarations
    generateEntries schema catalog body rest

/-- The declarations of a namespace. -/
def generate (schema : NamespaceSchema) (catalog : Catalog) : Reporting (List Declaration) := do
  let body ← schema.generateEntries catalog [] schema.entries
  Reporting.note (.generatedNamespace schema.name body.length)
  pure body

end NamespaceSchema

end SchemaTypings
