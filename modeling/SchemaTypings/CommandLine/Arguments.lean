import SchemaTypings.Text.Steering

/-!
# Arguments of the command

Options have long names. One that takes a value takes it behind `=` or from the next argument, which
then must not look like an option. Every option but one may be given once.

The arguments are read from left to right and the first fault ends the reading. An argument that cannot
be understood at all is a fault at once. An option that waits for its value, or got it from the next
argument, is settled only when the next option is taken or the arguments end; a missing or surplus value
is found then. Whether the mandatory options are there is checked last.
-/

namespace SchemaTypings

/-- What the command is asked to do. -/
structure Arguments where
  schemaDirectory : String
  outfile : String
  force : Bool := false
  rootNamespace : String := "messenger"
  aliasNamespace : Option String := none
  ignoredNamespaces : List String := []
  strict : Bool := false

/-- An option with a value. -/
inductive ValueOption where
  | schemaDirectory | outfile | rootNamespace | aliasNamespace | ignoreNamespace
deriving DecidableEq

namespace ValueOption

/-- The name of an option. -/
def name : ValueOption → String
  | schemaDirectory => "schema-dir"
  | outfile => "outfile"
  | rootNamespace => "root-namespace"
  | aliasNamespace => "alias-namespace"
  | ignoreNamespace => "ignore-namespace"

/-- The name of its value. -/
def valueName : ValueOption → String
  | schemaDirectory => "DIR"
  | outfile => "FILE"
  | rootNamespace => "ROOT_NAMESPACE"
  | aliasNamespace => "ALIAS_NAMESPACE"
  | ignoreNamespace => "NAMESPACE"

/-- An option with its value as messages show it. -/
def usage (option : ValueOption) : String :=
  "--" ++ option.name ++ " <" ++ option.valueName ++ ">"

/-- All options with values. -/
def all : List ValueOption :=
  [schemaDirectory, outfile, rootNamespace, aliasNamespace, ignoreNamespace]

/-- The option with this name. -/
def ofName? (s : String) : Option ValueOption := all.find? fun option => option.name == s

/-- Whether the value is a path, which cannot be empty. -/
def isPath : ValueOption → Bool
  | schemaDirectory | outfile => true
  | _ => false

end ValueOption

/-- An option without a value. -/
inductive FlagOption where
  | force | strict | help | version
deriving DecidableEq

namespace FlagOption

/-- The name of a flag. -/
def name : FlagOption → String
  | force => "force"
  | strict => "strict"
  | help => "help"
  | version => "version"

/-- All flags. -/
def all : List FlagOption := [force, strict, help, version]

/-- The flag with this name. -/
def ofName? (s : String) : Option FlagOption := all.find? fun flag => flag.name == s

end FlagOption

/-- What is wrong with the arguments. -/
inductive UsageFault where
  | missingRequired
  | unexpected (argument : String)
  | valueRequired (option : ValueOption)
  | repeatedOption (option : ValueOption)
  | repeatedFlag (flag : FlagOption)
  | surplusValue (value : String) (flag : FlagOption)
deriving DecidableEq

/-- The message about wrong arguments. What it quotes of them has no control characters. -/
def UsageFault.message : UsageFault → String
  | missingRequired => "error: the following required arguments were not provided:"
  | unexpected argument =>
    "error: unexpected argument '" ++ Text.withoutControls argument ++ "' found"
  | valueRequired option =>
    "error: a value is required for '" ++ option.usage ++ "' but none was supplied"
  | repeatedOption option =>
    "error: the argument '" ++ option.usage ++ "' cannot be used multiple times"
  | repeatedFlag flag =>
    "error: the argument '--" ++ flag.name ++ "' cannot be used multiple times"
  | surplusValue value flag =>
    "error: unexpected value '" ++ Text.withoutControls value ++ "' for '--" ++ flag.name ++
      "' found; no more were expected"

/-- What the arguments ask for. -/
inductive Request where
  | generate (arguments : Arguments)
  | help
  | version

namespace Arguments

/-- The options read so far. -/
structure Draft where
  schemaDirectory : Option String := none
  outfile : Option String := none
  rootNamespace : Option String := none
  aliasNamespace : Option String := none
  ignoredNamespaces : List String := []
  force : Bool := false
  strict : Bool := false

namespace Draft

/-- Whether an option that may be given once was given. -/
def has (draft : Draft) : ValueOption → Bool
  | .schemaDirectory => draft.schemaDirectory.isSome
  | .outfile => draft.outfile.isSome
  | .rootNamespace => draft.rootNamespace.isSome
  | .aliasNamespace => draft.aliasNamespace.isSome
  | .ignoreNamespace => false

/-- The draft with the value of an option. -/
def set (draft : Draft) (option : ValueOption) (value : String) : Draft :=
  match option with
  | .schemaDirectory => { draft with schemaDirectory := some value }
  | .outfile => { draft with outfile := some value }
  | .rootNamespace => { draft with rootNamespace := some value }
  | .aliasNamespace => { draft with aliasNamespace := some value }
  | .ignoreNamespace => { draft with ignoredNamespaces := draft.ignoredNamespaces ++ [value] }

/-- Take the value of an option. -/
def take (draft : Draft) (option : ValueOption) (value : String) : Except UsageFault Draft :=
  if draft.has option then .error (.repeatedOption option)
  else if option.isPath && value == "" then .error (.valueRequired option)
  else .ok (draft.set option value)

/-- The arguments, if the mandatory options were given. -/
def finish (draft : Draft) : Except UsageFault Request :=
  match draft.schemaDirectory, draft.outfile with
  | some schemaDirectory, some outfile =>
    .ok (.generate {
      schemaDirectory, outfile
      force := draft.force
      rootNamespace := draft.rootNamespace.getD "messenger"
      aliasNamespace := draft.aliasNamespace
      ignoredNamespaces := draft.ignoredNamespaces
      strict := draft.strict })
  | _, _ => .error .missingRequired

end Draft

/-- An argument by its form. -/
inductive Form where
  /-- The mark behind which nothing is an option. -/
  | escape
  /-- A long name with the value behind `=`. -/
  | long (name : String) (value : Option String)
  /-- A short name by its first letter. -/
  | short (letter : Char)
  /-- Anything else. -/
  | plain

/-- The form of an argument. -/
def form (argument : String) : Form :=
  match argument.toList with
  | ['-', '-'] => .escape
  | '-' :: '-' :: rest =>
    let name := String.ofList (rest.takeWhile (· ≠ '='))
    match rest.dropWhile (· ≠ '=') with
    | [] => .long name none
    | _ :: value => .long name (some (String.ofList value))
  | '-' :: letter :: _ => .short letter
  | _ => .plain

/-- An option that is not settled, with the value it got from the next argument. -/
structure Pending where
  option : ValueOption
  value : Option String := none

/-- Settle the option before, if there is one. -/
def Draft.settle (draft : Draft) : Option Pending → Except UsageFault Draft
  | none => .ok draft
  | some ⟨option, none⟩ => .error (.valueRequired option)
  | some ⟨option, some value⟩ => draft.take option value

/-- Read arguments into a draft, after an option that may not be settled. -/
def readFrom : Draft → Option Pending → List String → Except UsageFault Request
  | draft, pending, [] => do (← draft.settle pending).finish
  | draft, pending, argument :: rest =>
    match form argument with
    | .plain =>
      match pending with
      | some ⟨option, none⟩ => readFrom draft (some ⟨option, some argument⟩) rest
      | _ => .error (.unexpected argument)
    | .escape =>
      match rest with
      | [] => do (← draft.settle pending).finish
      | next :: _ => .error (.unexpected next)
    | .short letter =>
      if letter = 'V' then do
        let _ ← draft.settle pending
        .ok .version
      else if letter = 'h' then do
        let _ ← draft.settle pending
        .ok .help
      else .error (.unexpected (String.ofList ['-', letter]))
    | .long name value =>
      match ValueOption.ofName? name, FlagOption.ofName? name, value with
      | some option, _, some value => do
        let draft ← draft.settle pending
        let draft ← draft.take option value
        readFrom draft none rest
      | some option, _, none => do
        let draft ← draft.settle pending
        readFrom draft (some ⟨option, none⟩) rest
      | none, some flag, some value => .error (.surplusValue value flag)
      | none, some .help, none => do
        let _ ← draft.settle pending
        .ok .help
      | none, some .version, none => do
        let _ ← draft.settle pending
        .ok .version
      | none, some .force, none => do
        let draft ← draft.settle pending
        if draft.force then .error (.repeatedFlag .force)
        else readFrom { draft with force := true } none rest
      | none, some .strict, none => do
        let draft ← draft.settle pending
        if draft.strict then .error (.repeatedFlag .strict)
        else readFrom { draft with strict := true } none rest
      | none, none, _ => .error (.unexpected ("--" ++ name))

/-- Read the arguments of the command. -/
def read (arguments : List String) : Except UsageFault Request := readFrom {} none arguments

end Arguments

end SchemaTypings
