import SchemaTypings.CommandLine.Command

/-!
# The program

`main` runs the command on the files of the machine. It only passes on what the command decides.
-/

namespace SchemaTypings.Program

/-- The fault that an error of the system stands for. -/
def faultOf : IO.Error → FileFault
  | .noFileOrDirectory _ _ _ => .notFound
  | .alreadyExists _ _ _ => .alreadyExists
  | .inappropriateType _ code details =>
    if code = 21 then .isDirectory
    else if code = 20 then .notDirectory
    else .other details
  | .invalidArgument _ code details =>
    if code = 36 then .nameTooLong
    else if code = 40 then .tooManyLinks
    else .other details
  | fault => .other (toString fault)

/-- An operation with its failure as a value. -/
def attempt (operation : IO α) : IO (Except FileFault α) := do
  match ← operation.toBaseIO with
  | .ok result => pure (.ok result)
  | .error fault => pure (.error (faultOf fault))

/-- The directory entry that a path stands for. -/
def entry (path : String) : IO.FS.DirEntry := { root := path, fileName := "" }

/-- The wanted regular files directly inside a directory. -/
def regularFiles (path : String) (wanted : String → Bool) :
    IO (List (String × Except FileFault ByteArray)) := do
  let mut files := []
  for e in ← (entry path).root.readDir do
    if wanted e.fileName then
      let data ← e.path.symlinkMetadata
      if data.type == .file then
        files := (e.fileName, ← attempt (IO.FS.readBinFile e.path)) :: files
  return files

/-- The files of the machine. -/
def access : FileAccess IO where
  isDirectory path := (entry path).root.isDir
  makeDirectory path := attempt (IO.FS.createDir path)
  regularFiles := regularFiles
  write path contents := attempt (IO.FS.writeBinFile path contents)

end SchemaTypings.Program

open SchemaTypings in
/-- Run the command with the given arguments. -/
def main (arguments : List String) : IO UInt32 := do
  let filter := LogFilter.ofSetting (← IO.getEnv "WEBEXT_TYPINGS_LOG")
  IO.eprint filter.noticeText
  let outcome ← Command.run Program.access arguments
  for line in filter.lines outcome.events do
    IO.eprintln line
  IO.print outcome.stdout
  IO.eprint outcome.stderr
  return outcome.code.toUInt32
