import SchemaTypings.Text.Blank

/-!
# Lines of a text

A line ends at a line feed or at the end of the text, and a carriage return right before its line feed
does not belong to it. A text that ends with a line feed has no further empty line.

`stripLineComments` drops the lines whose first non-blank characters are `//`.
-/

namespace SchemaTypings.Text

/-- The line without a carriage return at its end. -/
def dropReturn (line : List Char) : List Char :=
  match line.getLast? with
  | some '\r' => line.dropLast
  | _ => line

/-- The lines of a text, given the characters of the line that has begun (last one first). -/
def linesFrom : List Char → List Char → List (List Char)
  | [], [] => []
  | begun, [] => [begun.reverse]
  | begun, c :: rest =>
    if c = '\n' then dropReturn begun.reverse :: linesFrom [] rest
    else linesFrom (c :: begun) rest

/-- The lines of a text. -/
def lines (s : String) : List String :=
  (linesFrom [] s.toList).map String.ofList

/-- Whether the first non-blank characters of the line are `//`. -/
def isCommentLine (line : String) : Bool :=
  ['/', '/'].isPrefixOf (trimStart line).toList

/-- The text without its comment lines; the others are joined by line feeds. -/
def stripLineComments (source : String) : String :=
  String.intercalate "\n" ((lines source).filter fun line => !isCommentLine line)

/-- The text with each line feed replaced by a blank. -/
def onOneLine (s : String) : String :=
  String.ofList (s.toList.map fun c => if c = '\n' then ' ' else c)

end SchemaTypings.Text
