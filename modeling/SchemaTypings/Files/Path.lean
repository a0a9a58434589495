/-!
# Paths

A path is a text whose segments are separated by `/`. Empty segments and `.` stay where they are,
except that a leading `.` counts as a segment of its own.
-/

namespace SchemaTypings.Path

/-- The parts between separators, given the part that has begun (last character first). -/
def splitFrom (separator : Char) : List Char → List Char → List (List Char)
  | begun, [] => [begun.reverse]
  | begun, c :: rest =>
    if c = separator then begun.reverse :: splitFrom separator [] rest
    else splitFrom separator (c :: begun) rest

/-- The parts of a text between separators; there is always at least one. -/
def split (separator : Char) (text : String) : List String :=
  (splitFrom separator [] text.toList).map String.ofList

/-- The segments of a path. -/
def segments (path : String) : List String := split '/' path

/-- Whether the path starts at the root. -/
def isAbsolute (path : String) : Bool := path.toList.head? == some '/'

/-- Whether the path ends with a separator. -/
def endsWithSeparator (path : String) : Bool := path.toList.getLast? == some '/'

/-- Whether a segment stays where it is. -/
def isIdle (segment : String) : Bool := segment == "" || segment == "."

/-- The list without idle segments at its end. -/
def trimIdle (parts : List String) : List String := (parts.reverse.dropWhile isIdle).reverse

/-- The beginning of a path that is not split further: the root or a leading `.`, and what follows. -/
def splitLead (path : String) : String × String :=
  match path.toList with
  | '/' :: rest => ("/", String.ofList rest)
  | ['.'] => (".", "")
  | '.' :: '/' :: rest => (".", String.ofList ('/' :: rest))
  | _ => ("", path)

/-- The directory part of a path, `none` if the path has no directory part. -/
def directory? (path : String) : Option String :=
  let (lead, body) := splitLead path
  match (trimIdle (segments body)).reverse with
  | [] => none
  | _ :: before =>
    let directory := lead ++ String.intercalate "/" (trimIdle before.reverse)
    if directory == "" then none else some directory

/-- The path and its directory parts from the inside out, without the root. -/
def ancestors (path : String) : List String :=
  go path.length path
where
  /-- At most `fuel` directory parts; each is shorter than the path. -/
  go : Nat → String → List String
    | 0, _ => []
    | fuel + 1, path =>
      match directory? path with
      | some directory => path :: go fuel directory
      | none => if path == "/" then [] else [path]

/-- A name inside a directory. -/
def join (directory name : String) : String :=
  if endsWithSeparator directory then directory ++ name else directory ++ "/" ++ name

/-- The part of a file name behind its last dot; a name that merely begins with a dot has none. -/
def extension? (name : String) : Option String :=
  let reversed := name.toList.reverse
  match reversed.dropWhile (· ≠ '.') with
  | [] | [_] => none
  | _ :: _ => some (String.ofList (reversed.takeWhile (· ≠ '.')).reverse)

end SchemaTypings.Path
