/-!
# String literals

A string literal stands between double quotes. The quote, the backslash and the two line breaks are
escaped; every other character stands for itself.
-/

namespace SchemaTypings.Text

/-- One character inside a literal. -/
def literalChar (c : Char) : List Char :=
  if c = '\\' then ['\\', '\\']
  else if c = '"' then ['\\', '"']
  else if c = '\n' then ['\\', 'n']
  else if c = '\r' then ['\\', 'r']
  else [c]

/-- The body of a literal. -/
def escapeLiteral (s : String) : String :=
  String.ofList (s.toList.flatMap literalChar)

/-- The literal that denotes the text. -/
def stringLiteral (s : String) : String :=
  "\"" ++ escapeLiteral s ++ "\""

end SchemaTypings.Text
