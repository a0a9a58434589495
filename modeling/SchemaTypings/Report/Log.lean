import SchemaTypings.Report.Reporting
import SchemaTypings.Text.Steering

/-!
# The log

Every event is a record of the log: a level, the part of the program it comes from, a message and
fields.
-/

namespace SchemaTypings

/-- The levels of the log, from the gravest. -/
inductive Level where
  | error | warn | info | debug | trace
deriving DecidableEq

namespace Level

/-- The rank of a level; more detail has a higher rank. -/
def rank : Level → Nat
  | error => 1
  | warn => 2
  | info => 3
  | debug => 4
  | trace => 5

/-- The name of a level. -/
def name : Level → String
  | error => "ERROR"
  | warn => "WARN"
  | info => "INFO"
  | debug => "DEBUG"
  | trace => "TRACE"

/-- All levels. -/
def all : List Level := [error, warn, info, debug, trace]

end Level

/-- A record of the log. -/
structure LogRecord where
  level : Level
  target : String
  message : String
  fields : List (String × String)

namespace LogRecord

/-- Whether the record has a field with this name; its message is one. -/
def hasField (r : LogRecord) (name : String) : Bool :=
  name == "message" || r.fields.any fun field => field.1 == name

/-- The line that shows a record. The message may quote any text, so it is disarmed. -/
def line (r : LogRecord) : String :=
  String.intercalate " "
    ([r.level.name, r.target ++ ":", Text.disarm r.message] ++
      r.fields.map fun (name, value) => name ++ "=" ++ value)

end LogRecord

/-- A part of the program as the target of a record. -/
def coreTarget (part : String) : String := "webext_typings_core::" ++ part

/-- The command as the target of a record. -/
def commandTarget : String := "webext_typings::generate"

/-- The record of a diagnostic. -/
def Diagnostic.record (d : Diagnostic) : LogRecord where
  level := match d.severity with
    | .warning => .warn
    | .error => .error
  target := coreTarget "diagnostics"
  message := d.problem.message
  fields := [("namespace", Text.showQuoted (d.space.getD "-"))]

/-- The record of a note. -/
def Note.record : Note → LogRecord
  | skippedByOverride space label =>
    ⟨.trace, coreTarget "generator", "Skipped by override",
      [("namespace", Text.showQuoted space), ("node", label)]⟩
  | addingNamespace name file =>
    ⟨.debug, coreTarget "catalog", "Adding namespace",
      [("namespace", name), ("source_file", Text.showQuoted file)]⟩
  | mergingNamespace name file =>
    ⟨.debug, coreTarget "catalog", "Merging namespace",
      [("namespace", name), ("source_file", Text.showQuoted file)]⟩
  | loadedFile file fragments =>
    ⟨.debug, coreTarget "loader", "Loaded schema file",
      [("file", file), ("fragments", toString fragments)]⟩
  | loadedCatalog files namespaces directory =>
    ⟨.info, coreTarget "loader", "Loaded schema catalog",
      [("files", toString files), ("namespaces", toString namespaces), ("dir", directory)]⟩
  | ignoringNamespace name =>
    ⟨.debug, coreTarget "assembler", "Ignoring namespace", [("namespace", name)]⟩
  | generatedNamespace name declarations =>
    ⟨.debug, coreTarget "assembler", "Generated namespace",
      [("namespace", Text.showQuoted name), ("declarations", toString declarations)]⟩
  | assembled namespaces warnings errors =>
    ⟨.info, coreTarget "assembler", "Assembled declarations",
      [("namespaces", toString namespaces), ("warnings", toString warnings),
        ("errors", toString errors)]⟩
  | creatingDirectory directory =>
    ⟨.debug, commandTarget, "Creating output directory.", [("dir", directory)]⟩
  | declarationsWritten file bytes =>
    ⟨.info, commandTarget, "Declarations written.",
      [("outfile", file), ("bytes", toString bytes)]⟩

/-- The record of an event. -/
def Event.record : Event → LogRecord
  | diagnostic d => d.record
  | note n => n.record

end SchemaTypings
