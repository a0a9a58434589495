import SchemaTypings.Descriptor.DecodeFault
import SchemaTypings.Report.Fault

/-!
# Problems

A problem is the cause of a diagnostic. Every cause that the library reports is a constructor of
`Problem`, and `Problem.message` holds all their wordings.
-/

namespace SchemaTypings

/-- A section of a namespace fragment. -/
inductive Section where
  | type | function | event | property
deriving DecidableEq

/-- The name of a section in messages. -/
def Section.name : Section → String
  | .type => "type"
  | .function => "function"
  | .event => "event"
  | .property => "property"

/-- How an entry of a section is told apart. -/
inductive EntryLabel where
  | named (name : String)
  | position (index : Nat)
deriving DecidableEq

/-- The wording of an entry label. -/
def EntryLabel.message : EntryLabel → String
  | named name => "'" ++ name ++ "'"
  | position index => "#" ++ toString index

/-- What a diagnostic reports. -/
inductive Problem where
  /-- A text given by the caller. -/
  | text (message : String)
  /-- A fragment has the wrong outer shape. -/
  | invalidFragment (file : String) (cause : DecodeFault)
  /-- A fragment names no namespace. -/
  | noNamespace (file : String)
  /-- An entry of a fragment is no descriptor. -/
  | invalidEntry (part : Section) (label : EntryLabel) (file : String) (cause : DecodeFault)
  /-- A property is defined once more. -/
  | duplicateProperty (key file : String)
  /-- A file is not JSON, in the words of its reader. -/
  | malformedFile (file cause : String)
  /-- A file holds no list. -/
  | notAList (file : String)
  /-- A declaration could not be produced. -/
  | failedTyping (label : String) (context : Context) (cause : GenerateFault)
  /-- A function has no name to be declared under. -/
  | unnamedFunction (cause : GenerateFault)
  /-- A signature of a function could not be produced. -/
  | failedFunction (name : String) (cause : GenerateFault)
  /-- A signature of a method could not be produced. -/
  | failedMethod (label : String) (cause : GenerateFault)
  /-- An event could not be produced. -/
  | failedEvent (space label : String) (cause : GenerateFault)
  /-- A function has too many optional parameters before mandatory ones. -/
  | tooManyVariants (name : String) (count : Nat)
  /-- A reference names a type of the shared namespace without saying so. -/
  | misplacedReference (target space shared : String)
  /-- A reference names no type. -/
  | danglingReference (target space : String)
  /-- An object property is marked unsupported. -/
  | unsupportedProperty (path : String)
  /-- A property of an object has no type. -/
  | untypedProperty (path : String)
  /-- A method or event is marked unsupported. -/
  | unsupportedFunction (path : String)
  /-- An event is marked unsupported. -/
  | unsupportedEvent (path : String)
  /-- A pattern of an object has no type. -/
  | untypedPattern (path : String)
  /-- A name is declared twice. -/
  | duplicateDeclaration (path : String)
  /-- A type entry refers to another type. -/
  | typeMerging (label target : String)
  /-- A function type has no id. -/
  | functionTypeWithoutId (label : String)
  /-- A property of a namespace has a kind that cannot be a constant. -/
  | unusablePropertyKind (path kind : String)

/-- The wording of a problem. -/
def Problem.message : Problem → String
  | text message => message
  | invalidFragment file cause => "invalid schema fragment in " ++ file ++ ": " ++ cause.message
  | noNamespace file => "schema in " ++ file ++ " does not have a namespace"
  | invalidEntry part label file cause =>
    "skipping invalid " ++ part.name ++ " entry " ++ label.message ++ " in " ++ file ++ ": " ++
      cause.message
  | duplicateProperty key file =>
    "duplicate property '" ++ key ++ "' in " ++ file ++ ", keeping the first definition"
  | malformedFile file cause => "failed to parse schema " ++ file ++ ": " ++ cause
  | notAList file => "schema in " ++ file ++ " is not an array"
  | failedTyping label context cause =>
    "failed to create typing for " ++ label ++ " in " ++ context.name ++ " context: " ++
      cause.message
  | unnamedFunction cause => cause.message
  | failedFunction name cause => "failed to create function " ++ name ++ ": " ++ cause.message
  | failedMethod label cause => "failed to create method " ++ label ++ ": " ++ cause.message
  | failedEvent space label cause =>
    "error creating event typing for " ++ space ++ "." ++ label ++ ": " ++ cause.message
  | tooManyVariants name count =>
    "function " ++ name ++ " has " ++ toString count ++
      " infix optional parameters, emitting only the full signature"
  | misplacedReference target space shared =>
    "schema incorrect, referenced local type '" ++ target ++ "' in '" ++ space ++
      "', but should reference " ++ shared ++ "." ++ target
  | danglingReference target space =>
    "referenced type '" ++ target ++ "' not found in schema '" ++ space ++ "'"
  | unsupportedProperty path => "skipping unsupported property " ++ path
  | untypedProperty path => "cannot create property type for " ++ path
  | unsupportedFunction path => "skipping unsupported function " ++ path
  | unsupportedEvent path => "skipping unsupported event " ++ path
  | untypedPattern path => "cannot resolve pattern property " ++ path
  | duplicateDeclaration path => "skipping duplicate declaration of " ++ path
  | typeMerging label target =>
    "skipping type " ++ label ++ " referencing " ++ target ++ ", type merging is not supported"
  | functionTypeWithoutId label => "function type " ++ label ++ " has no id"
  | unusablePropertyKind path kind =>
    "cannot create property " ++ path ++ " of kind " ++ kind

end SchemaTypings
