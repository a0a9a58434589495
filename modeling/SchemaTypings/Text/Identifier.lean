import SchemaTypings.Text.Literal

/-!
# Names in declarations

A name that is an identifier is written as it is; any other property key is written as a string
literal. Identifiers are ASCII: a letter, `_` or `$`, then also digits. Reserved words may be property
keys but not the names of functions.
-/

namespace SchemaTypings.Text

/-- How a name is written as a property key. -/
inductive KeyForm where
  /-- As it is. -/
  | bare
  /-- As a string literal. -/
  | quoted
deriving DecidableEq

/-- A character an identifier may begin with. -/
def isIdentifierStart (c : Char) : Bool := c.isAlpha || c = '_' || c = '$'

/-- A character an identifier may contain. -/
def isIdentifierChar (c : Char) : Bool := c.isAlphanum || c = '_' || c = '$'

/-- Whether the name is an identifier. -/
def isIdentifier (name : String) : Bool :=
  match name.toList with
  | [] => false
  | c :: rest => isIdentifierStart c && (c :: rest).all isIdentifierChar

/-- The form of a name as a property key. -/
def keyForm (name : String) : KeyForm :=
  if isIdentifier name then .bare else .quoted

/-- A name as a property key. -/
def propertyKey (name : String) : String :=
  match keyForm name with
  | .bare => name
  | .quoted => stringLiteral name

/-- The words that cannot name a declared function. -/
def reservedWords : List String := [
  "break", "case", "catch", "class", "const", "continue", "debugger", "default", "delete", "do",
  "else", "enum", "export", "extends", "false", "finally", "for", "function", "if", "import", "in",
  "instanceof", "new", "null", "return", "super", "switch", "this", "throw", "true", "try", "typeof",
  "var", "void", "while", "with", "yield", "let", "static", "implements", "interface", "package",
  "private", "protected", "public", "await"]

/-- Whether the name is reserved. -/
def isReserved (name : String) : Bool := reservedWords.contains name

end SchemaTypings.Text
