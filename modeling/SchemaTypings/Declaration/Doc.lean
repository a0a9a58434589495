import SchemaTypings.Declaration.Basic
import SchemaTypings.Text.Line
import SchemaTypings.Text.Markup

/-!
# Writing documentation comments

A comment has content lines: those of the description, one for each documented parameter and one for
the deprecation note. One content line makes a comment on one line; otherwise each stands on its own
line between the opening and the closing of the comment.
-/

namespace SchemaTypings.DocComment

/-- A tag with its text on one line. -/
def tagLine (tag text : String) : String :=
  Text.trimEnd (tag ++ " " ++ Text.onOneLine (Text.plainMarkup text))

/-- The content lines. -/
def content (doc : DocComment) : List String :=
  (match doc.description with
    | some description => (Text.lines (Text.plainMarkup description)).map Text.trimEnd
    | .none => []) ++
  (doc.params.map fun (name, text) => tagLine ("@param " ++ name) text) ++
  (match doc.deprecated with
    | some note => [tagLine "@deprecated" note]
    | .none => [])

/-- A content line inside a comment of several lines. -/
def starLine (line : String) : String := if line = "" then " *" else " * " ++ line

/-- The lines of the comment, none if it is empty. -/
def lines (doc : DocComment) : List String :=
  if doc.isEmpty then []
  else match doc.content with
    | [single] => ["/** " ++ single ++ " */"]
    | content => ["/**"] ++ content.map starLine ++ [" */"]

/-- The comment in front of a type, on the same line. -/
def inlineText? (doc : DocComment) : Option String :=
  if doc.isEmpty then .none
  else some ("/** " ++ String.intercalate " " doc.content ++ " */")

end SchemaTypings.DocComment
