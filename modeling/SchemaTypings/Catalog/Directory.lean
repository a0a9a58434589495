import SchemaTypings.Assembly.Module
import SchemaTypings.Catalog.Source
import SchemaTypings.Files.Access
import SchemaTypings.Files.Path

/-!
# Schema directories

A schema directory gives the fragments of the regular files directly inside it whose extension is
`json`, in the order of their names. A file that cannot be read as text ends the loading.
-/

namespace SchemaTypings

/-- A run that may fail to load a directory. -/
abbrev Loading := ExceptT LoadFault Reporting

namespace Catalog

/-- Whether a file with this name is a schema file. -/
def isSchemaFile (name : String) : Bool := Path.extension? name == some "json"

/-- A file by its name, with its contents or the reason why it cannot be read. -/
abbrev NamedFile := String × Except FileFault ByteArray

/-- Files in the order of their names. -/
def sortedFiles (files : List NamedFile) : List NamedFile :=
  files.mergeSort fun a b => !decide (b.1 < a.1)

/-- The text of a file in a directory. -/
def textOf (directory : String) : NamedFile → Except LoadFault String
  | (name, .error cause) => .error (.unreadable (Path.join directory name) cause)
  | (name, .ok contents) =>
    match String.fromUTF8? contents with
    | none => .error (.notText (Path.join directory name))
    | some source => .ok source

variable [JsonReader]

/-- Merge the files of a directory one after another. -/
def mergeFiles (directory : String) : Catalog → List NamedFile → Loading Catalog
  | catalog, [] => pure catalog
  | catalog, file :: rest => do
    match textOf directory file with
    | .error fault => throw fault
    | .ok source =>
      let (catalog, accepted) ← catalog.mergeSource source file.1
      (Reporting.note (.loadedFile file.1 accepted) : Reporting PUnit)
      mergeFiles directory catalog rest

/-- The catalog of the schema files of a directory. -/
def ofFiles (directory : String) (files : List NamedFile) : Loading Catalog := do
  let files := sortedFiles files
  let catalog ← mergeFiles directory .empty files
  (Reporting.note (.loadedCatalog files.length catalog.size directory) : Reporting PUnit)
  pure catalog

/-- Load a schema directory. -/
def loadDirectory {m : Type → Type} [Monad m] (files : FileAccess m) (directory : String) :
    m (Loading Catalog) := do
  if ← files.isDirectory directory then
    return ofFiles directory (← files.regularFiles directory isSchemaFile)
  else return throw (.missingDirectory directory)

end Catalog

/-- Load a schema directory and assemble its module. -/
def generateFromDirectory [JsonReader] {m : Type → Type} [Monad m] (files : FileAccess m) (directory : String)
    (options : Options) : m (Loading Module) := do
  let loading ← Catalog.loadDirectory files directory
  return do
    let catalog ← loading
    let module ← catalog.assemble options
    pure module

end SchemaTypings
