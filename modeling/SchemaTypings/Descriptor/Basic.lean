import SchemaTypings.Json.Basic

/-!
# Schema descriptors

A descriptor is one node of a schema: a type, a function, an event, a parameter or a property. All of
them share one record, in which a missing key and a present empty list are different things. Which
kind of node a descriptor is, is decided by `Descriptor.kind?`.

The small functions of this module answer the questions that are asked of single keys: whether a node
is optional, deprecated, asynchronous, and by which name it goes.
-/

namespace SchemaTypings

/-- A key whose value is a flag or a text. -/
inductive Marker where
  | flag (on : Bool)
  | text (value : String)
deriving DecidableEq

/-- A choice of an enumeration. -/
inductive EnumChoice where
  /-- A bare string. -/
  | plain (value : String)
  /-- A string with documentation. -/
  | named (name : String) (description : Option String)
  /-- Anything else, such as a number. -/
  | other (value : Json)

namespace EnumChoice

/-- The string a choice stands for. -/
def value? : EnumChoice → Option String
  | plain value => some value
  | named name _ => some name
  | other _ => none

/-- The documentation of a choice. -/
def description? : EnumChoice → Option String
  | named _ description => description
  | _ => none

end EnumChoice

/-- What is allowed under the keys an object does not declare. -/
inductive Additional (δ : Type) where
  /-- Any value, or nothing at all. -/
  | allowed (any : Bool)
  /-- Values of one type. -/
  | schema (value : δ)

/-- A schema node. Unknown keys are kept, in order, in `extra`. -/
structure Descriptor where
  typeName : Option String := none
  id : Option String := none
  name : Option String := none
  description : Option String := none
  deprecated : Option Marker := none
  unsupported : Option Bool := none
  optional : Option Marker := none
  reference : Option String := none
  choices : Option (List Descriptor) := none
  value : Option Json := none
  enumChoices : Option (List EnumChoice) := none
  items : Option Descriptor := none
  properties : Option (List (String × Descriptor)) := none
  patternProperties : Option (List (String × Descriptor)) := none
  additionalProperties : Option (Additional Descriptor) := none
  functions : Option (List Descriptor) := none
  isInstanceOf : Option String := none
  parameters : Option (List Descriptor) := none
  extraParameters : Option (List Descriptor) := none
  returns : Option Descriptor := none
  asynchronous : Option Marker := none
  extra : List (String × Json) := []

namespace Descriptor

/-- The text by which a node is marked as one that may be left out. -/
def omitMarker : String := "omit-key-if-missing"

/-- The name of the parameter that receives the result of an asynchronous function. -/
def callbackName : String := "callback"

/-- May be left out. -/
def isOptional (d : Descriptor) : Bool :=
  match d.optional with
  | some (.flag on) => on
  | some (.text marker) => marker == omitMarker
  | none => false

/-- Not implemented by the host. -/
def isUnsupported (d : Descriptor) : Bool := d.unsupported == some true

/-- Declares a parameter list, even an empty one. -/
def hasParameters (d : Descriptor) : Bool := d.parameters.isSome

/-- The declared parameters, none if there is no list. -/
def params (d : Descriptor) : List Descriptor := d.parameters.getD []

/-- The declared extra parameters of an event, none if there is no list. -/
def extraParams (d : Descriptor) : List Descriptor := d.extraParameters.getD []

/-- Declares at least one extra parameter. -/
def hasExtraParameters (d : Descriptor) : Bool := !d.extraParams.isEmpty

/-- Completes asynchronously. -/
def isAsync (d : Descriptor) : Bool :=
  match d.asynchronous with
  | some (.flag on) => on
  | some (.text name) => name == callbackName
  | none => false

/-- Is the parameter that receives the result. -/
def isCallback (d : Descriptor) : Bool := d.name == some callbackName

/-- The name of a declaration: the `name`, otherwise the `id`. -/
def identifier? (d : Descriptor) : Option String := d.name <|> d.id

/-- The deprecation note, empty for a bare flag. -/
def deprecation? (d : Descriptor) : Option String :=
  match d.deprecated with
  | some (.flag true) => some ""
  | some (.text note) => some note
  | _ => none

/-- Carries a deprecation flag or note. -/
def isDeprecated (d : Descriptor) : Bool := d.deprecation?.isSome

/-- The same node, optional or mandatory as given. -/
def withOptional (d : Descriptor) (on : Bool) : Descriptor := { d with optional := some (.flag on) }

/-- A reference to a named type in place of the node, with the node's name and marks. -/
def asReferenceTo (d : Descriptor) (target : String) : Descriptor :=
  { name := d.name, description := d.description, deprecated := d.deprecated,
    optional := d.optional, reference := some target }

@[simp] theorem isOptional_withOptional (d : Descriptor) (on : Bool) :
    (d.withOptional on).isOptional = on := rfl

@[simp] theorem isOptional_asReferenceTo (d : Descriptor) (target : String) :
    (d.asReferenceTo target).isOptional = d.isOptional := rfl

@[simp] theorem isCallback_asReferenceTo (d : Descriptor) (target : String) :
    (d.asReferenceTo target).isCallback = d.isCallback := rfl

end Descriptor

end SchemaTypings
