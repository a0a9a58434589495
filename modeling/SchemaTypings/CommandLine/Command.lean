import SchemaTypings.Catalog.Directory
import SchemaTypings.CommandLine.Arguments
import SchemaTypings.CommandLine.LogFilter
import SchemaTypings.Json.Parser

/-!
# The command

The command makes sure that the directory of its output file is there, loads the schema directory,
writes the module and says how many problems there were. It ends with 1 if one of these steps fails,
with 2 if the arguments are wrong or errors were reported and may not be, and with 0 otherwise.
-/

namespace SchemaTypings

/-- Why the command failed. -/
inductive CommandFault where
  /-- The directory of the output file is not there and may not be made. -/
  | noOutputDirectory (path : String)
  /-- The directory of the output file cannot be made. -/
  | cannotMakeDirectory (path : String) (cause : FileFault)
  /-- The schema directory cannot be loaded. -/
  | cannotLoad (cause : LoadFault)
  /-- The output file cannot be written. -/
  | cannotWrite (path : String) (cause : FileFault)

/-- The wording of a failure. -/
def CommandFault.message : CommandFault → String
  | noOutputDirectory path =>
    "Output directory " ++ path ++ " does not exist, use --force to create it"
  | cannotMakeDirectory path cause =>
    "Failed to create output directory " ++ path ++ ": " ++ cause.message
  | cannotLoad cause => cause.message
  | cannotWrite path cause =>
    "Failed to write declarations to " ++ path ++ ": " ++ cause.message

/-- What a run of the command leaves behind, apart from files. -/
structure Outcome where
  code : Nat
  stdout : String := ""
  stderr : String := ""
  events : List Event := []

namespace Command

/-- A run of the command: it may fail, and it collects events. -/
abbrev Running (m : Type → Type) := ExceptT CommandFault (StateT (List Event) m)

variable [JsonReader] {m : Type → Type} [Monad m]

/-- Ask the file system. -/
def ask (operation : m α) : Running m α := liftM operation

/-- Take over the events of a computation. -/
def report (x : Reporting α) : Running m α := do
  modify (· ++ x.events)
  pure x.value

/-- A failed operation is a failure of the command. -/
def orFail (fault : ε → CommandFault) : Except ε α → Running m α
  | .ok a => pure a
  | .error e => throw (fault e)

/-- The options of the generation. -/
def options (arguments : Arguments) : Options :=
  { rootNamespace := arguments.rootNamespace, aliasNamespace := arguments.aliasNamespace,
    ignoredNamespaces := arguments.ignoredNamespaces }

/-- Make sure that the directory of the output file is there. -/
def ensureDirectory (files : FileAccess m) (arguments : Arguments) : Running m Unit :=
  match Path.directory? arguments.outfile with
  | none => pure ()
  | some directory => do
    if ← ask (files.isDirectory directory) then pure ()
    else if !arguments.force then throw (.noOutputDirectory directory)
    else
      report (Reporting.note (.creatingDirectory directory))
      orFail (.cannotMakeDirectory directory)
        (← ask (files.makeDirectories (Path.ancestors directory)))

/-- Write the declarations; the answer is the diagnostics of the generation. -/
def generate (files : FileAccess m) (arguments : Arguments) : Running m Diagnostics := do
  ensureDirectory files arguments
  let generating ← ask (generateFromDirectory files arguments.schemaDirectory (options arguments))
  let generation := generating.run
  let module ← orFail .cannotLoad (← report generation)
  let text := module.write
  orFail (.cannotWrite arguments.outfile) (← ask (files.write arguments.outfile text.toUTF8))
  report (Reporting.note (.declarationsWritten arguments.outfile text.utf8ByteSize))
  pure generation.diagnostics

/-- A count with its noun. -/
def counted (n : Nat) (noun : String) : String :=
  toString n ++ " " ++ noun ++ (if n = 1 then "" else "s")

/-- What is printed about a finished run. -/
def summary (outfile : String) (ds : Diagnostics) : String :=
  "Wrote " ++ outfile ++ " (" ++ counted ds.warningCount "warning" ++ ", " ++
    counted ds.errorCount "error" ++ ")" ++
    (match ds.firstError? with
      | some d => "\nfirst error: " ++ d.message
      | none => "")

/-- The exit code of a run that failed. -/
def failureCode : Nat := 1

/-- The exit code for wrong arguments, and for errors that may not be. -/
def refusalCode : Nat := 2

/-- Run the command with valid arguments. -/
def runWith (files : FileAccess m) (arguments : Arguments) : m Outcome := do
  let (result, events) ← (generate files arguments).run []
  match result with
  | .ok ds =>
    pure { code := if arguments.strict && ds.hasErrors then refusalCode else 0
           stdout := summary arguments.outfile ds ++ "\n", events }
  | .error fault => pure { code := failureCode, stderr := fault.message ++ "\n", events }

/-- The name and version of the command. -/
def versionLine : String := "webext-typings 0.4.0"

/-- How the command is used. -/
def helpText : String :=
  String.intercalate "\n" [
    "Generate TypeScript declarations from WebExtension API schemas",
    "",
    "Usage: webext-typings [OPTIONS] --schema-dir <DIR> --outfile <FILE>",
    "",
    "Options:",
    "      --schema-dir <DIR>                   Directory holding the schema JSON files",
    "      --outfile <FILE>                     Declaration file to write",
    "      --force                              Create missing output directories",
    "      --root-namespace <ROOT_NAMESPACE>    Ambient namespace holding every API",
    "      --alias-namespace <ALIAS_NAMESPACE>  Second global re-exporting every API",
    "      --ignore-namespace <NAMESPACE>       Schema namespace to leave out (repeatable)",
    "      --strict                             Fail when any error was reported",
    "  -h, --help                               Print help",
    "  -V, --version                            Print version"]

/-- Run the command. -/
def run (files : FileAccess m) (arguments : List String) : m Outcome :=
  match Arguments.read arguments with
  | .error fault => pure { code := refusalCode, stderr := fault.message ++ "\n" }
  | .ok .version => pure { code := 0, stdout := versionLine ++ "\n" }
  | .ok .help => pure { code := 0, stdout := helpText ++ "\n" }
  | .ok (.generate arguments) => runWith files arguments

end Command

end SchemaTypings
