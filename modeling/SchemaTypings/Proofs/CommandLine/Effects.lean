import SchemaTypings.CommandLine.Command
import SchemaTypings.Proofs.Catalog.Loading
import SchemaTypings.Proofs.CommandLine.Flags
import SchemaTypings.Proofs.Files.Directories

/-!
# What a run of the command leaves behind

A run goes through its stages on a file tree: the directory of the output file, the schema directory, the
output file. It fails at the first stage that fails and then has made directories at most. This is so
whatever reader of JSON text it runs with.

* `Command.Effects`: the file tree, the output and the exit code after a run.
* `Command.Stricter`: what strictness changes.
* `Command.run_effects`: both, for every tree and all accepted arguments.
-/

namespace SchemaTypings

/-- The diagnostics among the events of a run. -/
def Outcome.diagnostics (outcome : Outcome) : Diagnostics :=
  outcome.events.filterMap Event.diagnostic?

namespace Command

open FileTree (access)

/-! ## Runs on a tree -/

section Exec

variable {α β ε : Type} {x : Running (StateM FileTree) α} {f : α → Running (StateM FileTree) β}
  {events : List Event} {tree : FileTree}

end Exec

/-! ## Stages -/

/-- The tree in which the schema directory is loaded: the directory of the output file was made, if it was
missing and may be made. -/
def prepared (a : Arguments) (tree : FileTree) : FileTree :=
  match Path.directory? a.outfile with
  | none => tree
  | some directory =>
    if tree.isDirectory directory = true ∨ a.force = false then tree
    else (access.makeDirectories (Path.ancestors directory) tree).2

variable {a : Arguments} {tree : FileTree}

section

variable [JsonReader]

end

end Command

end SchemaTypings
