import SchemaTypings.Catalog.Basic
import SchemaTypings.Declaration.Basic

/-!
# Generation in a namespace

Every generator sees the namespace it works for: its name, the type entries beside it, the whole
catalog and the declarations made so far. A generator may fail, which is one fault for one node, and
it may report, which it does in the name of its namespace.
-/

namespace SchemaTypings

/-- What a generator can see. -/
structure Scope where
  /-- The name of the namespace. -/
  space : String
  /-- The type entries of the namespace. -/
  knownTypes : List Descriptor
  /-- All namespaces. -/
  catalog : Catalog
  /-- The declarations made so far, in order. -/
  defined : List Declaration

namespace Scope

/-- Whether a type-level declaration with this name has been made. -/
def isDefined (scope : Scope) (name : String) : Bool :=
  scope.defined.any fun d => d.declaresType && d.name == name

/-- Whether a type entry has this id. -/
def isKnown (scope : Scope) (id : String) : Bool :=
  scope.knownTypes.any fun d => d.id == some id

/-- The scope behind further declarations. -/
def extend (scope : Scope) (made : List Declaration) : Scope :=
  { scope with defined := scope.defined ++ made }

/-- Report a warning in the name of the namespace. -/
def warn (scope : Scope) (problem : Problem) : Reporting PUnit :=
  Reporting.warn (some scope.space) problem

/-- Report an error in the name of the namespace. -/
def error (scope : Scope) (problem : Problem) : Reporting PUnit :=
  Reporting.error (some scope.space) problem

end Scope

/-- What a generator makes; the context decides the shape. -/
inductive Generated where
  | type (type : TypeExpr)
  | declaration (declaration : Declaration)
  | member (member : Member TypeExpr)

namespace Generated

/-- The type, if a type was made. -/
def type? : Generated → Option TypeExpr
  | type t => some t
  | _ => none

/-- The declaration, if a declaration was made. -/
def declaration? : Generated → Option Declaration
  | declaration d => some d
  | _ => none

/-- The member, if a member was made. -/
def member? : Generated → Option (Member TypeExpr)
  | member m => some m
  | _ => none

end Generated

/-- A generator: it may fail, and what it reported before that stays reported. -/
abbrev Generating := ExceptT GenerateFault Reporting

/-- The type of a nested descriptor, if it has one. Failures are reported. -/
abbrev InlineTyping := Descriptor → Reporting (Option TypeExpr)

/-- The place of a result that goes by the identifier of its descriptor. -/
inductive Slot where
  | inline
  | declared (name : String)
  | member (name : String)

namespace Descriptor

/-- The comment of a descriptor: its description and its deprecation note. -/
def docComment (d : Descriptor) : DocComment :=
  { description := d.description, deprecated := d.deprecation? }

/-- The id that a named declaration goes by; inline there is none, and elsewhere it has to be there. -/
def contextId (d : Descriptor) (fault : GenerateFault) (context : Context) :
    Generating (Option String) :=
  match context with
  | .inline => pure none
  | .namespace | .interface =>
    match d.id with
    | some id => pure (some id)
    | none => throw fault

/-- The place that a context has for a descriptor; outside of a type it needs an identifier. -/
def slot (d : Descriptor) (kind : String) (context : Context) : Generating Slot :=
  match context, d.identifier? with
  | .inline, _ => pure .inline
  | .namespace, some name => pure (.declared name)
  | .interface, some name => pure (.member name)
  | .namespace, none => throw (.missingIdentifier kind .namespace)
  | .interface, none => throw (.missingIdentifier kind .interface)

theorem slot_inline (d : Descriptor) (kind : String) :
    (d.slot kind .inline).run = pure (.ok .inline) := rfl

theorem slot_namespace {d : Descriptor} {name : String} (h : d.identifier? = some name)
    (kind : String) : (d.slot kind .namespace).run = pure (.ok (.declared name)) := by
  unfold slot
  rw [h]
  rfl

/-- An exported declaration with the comment of the descriptor. -/
def declared (d : Descriptor) (name : String) (body : DeclarationBody Declaration) : Declaration :=
  { name, doc := d.docComment, body }

/-- The type itself, or a type alias named by the id. -/
def typeOrAlias (d : Descriptor) (type : TypeExpr) (kind : String) (context : Context) :
    Generating Generated := do
  match ← d.contextId (.missingIdentifier kind context) context with
  | none => pure (.type type)
  | some id => pure (.declaration (d.declared id (.alias type)))

/-- The type itself, a constant or a property, as the place asks for. -/
def place (d : Descriptor) (type : TypeExpr) : Slot → Generated
  | .inline => .type type
  | .declared name => .declaration (d.declared name (.const type))
  | .member name => .member (.property name type d.isOptional d.docComment)

end Descriptor

end SchemaTypings
