import SchemaTypings.Fields
import SchemaTypings.Files.Access
import SchemaTypings.Files.Path

/-!
# File trees

A file tree in memory: regular files, directories and symbolic links. A path is followed segment by
segment from the root or from the working directory. Each place on the way has to be a directory, and a
link is replaced by its target; after a bounded number of links the path is given up. Names and paths
have a greatest length.
-/

namespace SchemaTypings

/-- A node of a file tree. -/
inductive FileNode where
  | file (contents : ByteArray)
  | directory (entries : List (String × FileNode))
  | link (target : String)

/-- A place in a tree: the names from the root down, through no link. -/
abbrev Location := List String

/-- A file tree with a working directory. -/
structure FileTree where
  root : FileNode
  workingDirectory : Location := []

namespace FileNode

/-- The entries of a directory. -/
def entries? : FileNode → Option (Fields FileNode)
  | directory entries => some entries
  | _ => none

/-- The node at a location. -/
def find? : Location → FileNode → Option FileNode
  | [], node => some node
  | name :: rest, node =>
    match node.entries?.bind (Fields.find? name) with
    | some child => find? rest child
    | none => none

/-- The tree with another node at a location whose directory is there. -/
def replace : Location → FileNode → FileNode → FileNode
  | [], _, new => new
  | name :: rest, .directory entries, new =>
    let child := (Fields.find? name entries).getD new
    .directory (Fields.put name (child.replace rest new) entries)
  | _ :: _, node, _ => node

end FileNode

/-- What a path is followed for. -/
inductive Purpose where
  /-- For what stands there, through a link at the end. -/
  | find
  /-- For a place for a directory. A link at the end occupies it. -/
  | makeDirectory
  /-- For a place for a file, through a link at the end. A separator at the end belongs to a
  directory. -/
  | write
deriving DecidableEq

/-- Where following a path without links ends. -/
inductive Descent where
  /-- At a node. -/
  | arrived (location : Location)
  /-- At a name that a directory does not have, with segments still to go. -/
  | missing (directory : Location) (name : String) (rest : List String)
  /-- At a link in a directory, with segments still to go. -/
  | link (directory : Location) (target : String) (rest : List String)
  /-- At something that is no directory, or at a name that no directory can have. -/
  | blocked (cause : FileFault)

namespace FileTree

/-- Bytes that a name may have. -/
def nameLimit : Nat := 255

/-- Bytes that a path may have. -/
def pathLimit : Nat := 4095

/-- Links that a path may lead through. -/
def linkLimit : Nat := 40

/-- Follow segments down to their end or to a link. -/
def descend (root : FileNode) (purpose : Purpose) : Location → List String → Descent
  | location, [] => .arrived location
  | location, segment :: rest =>
    match (root.find? location).bind FileNode.entries? with
    | none => .blocked .notDirectory
    | some entries =>
      if Path.isIdle segment then descend root purpose location rest
      else if segment == ".." then descend root purpose location.dropLast rest
      else if purpose == .write && !rest.isEmpty && rest.all (· == "") then .blocked .isDirectory
      else if nameLimit < segment.utf8ByteSize then .blocked .nameTooLong
      else match Fields.find? segment entries with
        | none => .missing location segment rest
        | some (.link target) =>
          if rest.isEmpty && purpose == .makeDirectory then .arrived (location ++ [segment])
          else .link location target rest
        | some _ => descend root purpose (location ++ [segment]) rest

/-- Where a path is followed to. -/
inductive Target where
  /-- A node. -/
  | node (location : Location)
  /-- A name free in a directory. -/
  | free (directory : Location) (name : String)

/-- Follow segments through at most the given number of links. -/
def follow (root : FileNode) (purpose : Purpose) :
    Nat → Location → List String → Except FileFault Target
  | links, location, segments =>
    match descend root purpose location segments with
    | .arrived location => .ok (.node location)
    | .missing directory name [] => .ok (.free directory name)
    | .missing _ _ _ => .error .notFound
    | .blocked cause => .error cause
    | .link directory target rest =>
      match links with
      | 0 => .error .tooManyLinks
      | links + 1 =>
        let start := if Path.isAbsolute target then [] else directory
        follow root purpose links start (Path.segments target ++ rest)

/-- Follow a list of segments of a path. -/
def followSegments (tree : FileTree) (path : String) (segments : List String) (purpose : Purpose) :
    Except FileFault Target :=
  if path == "" then .error .notFound
  else if pathLimit < path.utf8ByteSize then .error .nameTooLong
  else
    let start := if Path.isAbsolute path then [] else tree.workingDirectory
    follow tree.root purpose linkLimit start segments

/-- The segments of a path without separators at its end. -/
def namedSegments (path : String) : List String :=
  ((Path.segments path).reverse.dropWhile (· == "")).reverse

/-- The node that a path leads to. -/
def node? (tree : FileTree) (path : String) : Option FileNode :=
  match tree.followSegments path (Path.segments path) .find with
  | .ok (.node location) => tree.root.find? location
  | _ => none

/-- Whether a path leads to a directory. -/
def isDirectory (tree : FileTree) (path : String) : Bool :=
  ((tree.node? path).bind FileNode.entries?).isSome

/-- The tree with a node at a location. -/
def replace (tree : FileTree) (location : Location) (node : FileNode) : FileTree :=
  { tree with root := tree.root.replace location node }

/-- Make one directory. -/
def makeDirectory (tree : FileTree) (path : String) : Except FileFault FileTree := do
  match ← tree.followSegments path (namedSegments path) .makeDirectory with
  | .node _ => .error .alreadyExists
  | .free directory name => .ok (tree.replace (directory ++ [name]) (.directory []))

/-- Read a file in the directory of a path, which makes a path of its own. -/
def readIn (path name : String) (contents : ByteArray) : Except FileFault ByteArray :=
  if pathLimit < (Path.join path name).utf8ByteSize then .error .nameTooLong else .ok contents

/-- The wanted regular files directly inside a directory. -/
def regularFiles (tree : FileTree) (path : String) (wanted : String → Bool) :
    List (String × Except FileFault ByteArray) :=
  (((tree.node? path).bind FileNode.entries?).getD []).filterMap fun (name, node) =>
    match node with
    | .file contents => if wanted name then some (name, readIn path name contents) else none
    | _ => none

/-- Write a file. -/
def write (tree : FileTree) (path : String) (contents : ByteArray) :
    Except FileFault FileTree := do
  match ← tree.followSegments path (Path.segments path) .write with
  | .free directory name => .ok (tree.replace (directory ++ [name]) (.file contents))
  | .node location =>
    match tree.root.find? location with
    | some (.file _) => .ok (tree.replace location (.file contents))
    | _ => .error .isDirectory

/-- A change of the tree that may fail and then leaves it as it is. -/
def change (operation : FileTree → Except FileFault FileTree) :
    StateM FileTree (Except FileFault Unit) := fun tree =>
  match operation tree with
  | .ok changed => (.ok (), changed)
  | .error fault => (.error fault, tree)

/-- The operations on a tree. -/
def access : FileAccess (StateM FileTree) where
  isDirectory path := fun tree => (tree.isDirectory path, tree)
  makeDirectory path := change (·.makeDirectory path)
  regularFiles path wanted := fun tree => (tree.regularFiles path wanted, tree)
  write path contents := change (·.write path contents)

end FileTree

end SchemaTypings
