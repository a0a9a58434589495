import SchemaTypings.Files.Access
import SchemaTypings.Json.Printer

/-!
# Faults of generation and loading

A generation fault says why a single declaration could not be produced. It is contained where it
arises and costs that declaration alone. A loading fault says why a schema directory could not be read
at all.
-/

namespace SchemaTypings

/-- Where a generated type is going to be used. -/
inductive Context where
  /-- As a bare type inside another declaration. -/
  | inline
  /-- As a standalone exported declaration. -/
  | namespace
  /-- As a member of an interface, or a type declaration collected for one. -/
  | interface
deriving DecidableEq

/-- The name of a context in messages. -/
def Context.name : Context → String
  | .inline => "inline"
  | .namespace => "namespace"
  | .interface => "interface"

/-- Why a declaration could not be produced. -/
inductive GenerateFault where
  /-- The kind has no form in this context. -/
  | invalidContext (kind : String) (context : Context)
  /-- A standalone declaration needs a name. -/
  | missingIdentifier (kind : String) (context : Context)
  /-- A named union needs an id. -/
  | unionWithoutId (context : Context)
  /-- Only strings, numbers and booleans are literals. -/
  | invalidStaticValue (value : Json)
  /-- No kind fits. -/
  | unclassifiable (label : String)
  /-- Every choice of a union failed. -/
  | emptyUnion (label : String)
  /-- An event has both extra parameters and optional leading ones. -/
  | conflictingEventShapes (name : String)

/-- The wording of a generation fault. -/
def GenerateFault.message : GenerateFault → String
  | invalidContext kind context =>
    "'" ++ kind ++ "' cannot be generated in " ++ context.name ++ " context"
  | missingIdentifier kind context =>
    "'" ++ kind ++ "' declaration in " ++ context.name ++ " context has neither id nor name"
  | unionWithoutId context => "union in " ++ context.name ++ " context has no id"
  | invalidStaticValue value => "invalid static value '" ++ value.write ++ "'"
  | unclassifiable label => "unable to classify descriptor " ++ label
  | emptyUnion label => "union '" ++ label ++ "' has no representable choices"
  | conflictingEventShapes name =>
    "event '" ++ name ++
      "' declares extra listener parameters and optional leading callback parameters"

/-- Why a schema directory could not be read. -/
inductive LoadFault where
  /-- There is no such directory. -/
  | missingDirectory (path : String)
  /-- A schema file is not text. -/
  | notText (path : String)
  /-- A schema file cannot be read. -/
  | unreadable (path : String) (cause : FileFault)
deriving DecidableEq

/-- The wording of a loading fault. -/
def LoadFault.message : LoadFault → String
  | missingDirectory path => "schema directory '" ++ path ++ "' does not exist"
  | notText path =>
    "failed to read schema file '" ++ path ++ "': stream did not contain valid UTF-8"
  | unreadable path cause => "failed to read schema file '" ++ path ++ "': " ++ cause.message

end SchemaTypings
