/-!
# Access to files

What the program asks of a file system: one record of operations over any monad, so that the same
program runs on the files of a machine and on a tree held in memory.
-/

namespace SchemaTypings

/-- Why an operation on files failed. -/
inductive FileFault where
  | notFound
  | alreadyExists
  | notDirectory
  | isDirectory
  | nameTooLong
  | tooManyLinks
  | other (message : String)
deriving DecidableEq

/-- The wording of a fault. -/
def FileFault.message : FileFault → String
  | notFound => "No such file or directory (os error 2)"
  | alreadyExists => "File exists (os error 17)"
  | notDirectory => "Not a directory (os error 20)"
  | isDirectory => "Is a directory (os error 21)"
  | nameTooLong => "File name too long (os error 36)"
  | tooManyLinks => "Too many levels of symbolic links (os error 40)"
  | other message => message

/-- The operations on files. Paths are followed through links, except that `regularFiles` leaves out
the links inside the directory. -/
structure FileAccess (m : Type → Type) where
  /-- Whether the path leads to a directory. -/
  isDirectory : String → m Bool
  /-- Make one directory. -/
  makeDirectory : String → m (Except FileFault Unit)
  /-- The names of the wanted regular files directly inside a directory, in any order, each with its
  contents or the reason why it cannot be read. -/
  regularFiles : String → (String → Bool) → m (List (String × Except FileFault ByteArray))
  /-- Replace the contents of a file, or make it. -/
  write : String → ByteArray → m (Except FileFault Unit)

namespace FileAccess

variable {m : Type → Type} [Monad m]

/-- Make the first of the directories, each of which lies in the next one, and those of the others
that are missing. -/
def makeDirectories (files : FileAccess m) : List String → m (Except FileFault Unit)
  | [] => pure (.ok ())
  | path :: above => do
    match ← files.makeDirectory path with
    | .error .notFound =>
      match ← files.makeDirectories above with
      | .ok () => settle path (← files.makeDirectory path)
      | fault => pure fault
    | result => settle path result
where
  /-- A directory that is already there is as good as made. -/
  settle (path : String) : Except FileFault Unit → m (Except FileFault Unit)
    | .error .alreadyExists => do
      if ← files.isDirectory path then pure (.ok ()) else pure (.error .alreadyExists)
    | result => pure result

end FileAccess

end SchemaTypings
