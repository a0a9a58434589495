import SchemaTypings.Text.Printable

/-!
# Quoted text in messages

A message shows a text between quotes so that its extent and its invisible characters can be seen:
the common controls have letters, and any other character that is not printable is written by its
code in hexadecimal.
-/

namespace SchemaTypings.Text

/-- The digits of a character's code in hexadecimal. -/
def hexDigits (c : Char) : String := String.ofList (Nat.toDigits 16 c.toNat)

/-- A character written by its code between braces. -/
def codeEscape (c : Char) : String := "\\u\x7b" ++ hexDigits c ++ "\x7d"

/-- One character of a quoted text. -/
def showChar (c : Char) : String :=
  if c = '"' then "\\\""
  else if c = '\\' then "\\\\"
  else if c = '\n' then "\\n"
  else if c = '\r' then "\\r"
  else if c = '\t' then "\\t"
  else if c.toNat = 0 then "\\0"
  else if isPrintable c then String.singleton c
  else codeEscape c

/-- The text between quotes, with escapes. -/
def showQuoted (s : String) : String :=
  "\"" ++ String.join (s.toList.map showChar) ++ "\""

end SchemaTypings.Text
