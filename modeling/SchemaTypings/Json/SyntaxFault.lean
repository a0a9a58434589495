/-!
# Faults of JSON text

A fault has a cause and a position. Lines count from one; a column is the number of bytes since the
last line feed.
-/

namespace SchemaTypings

/-- The number of bytes of a text. -/
def byteLength (text : List Char) : Nat := text.foldl (fun n c => n + c.utf8Size) 0

/-- A place in a text. -/
structure Position where
  line : Nat
  column : Nat
deriving DecidableEq

namespace Position

/-- The beginning of a text. -/
def start : Position := ⟨1, 0⟩

/-- The position after one more byte of the character. -/
def afterByte (p : Position) (c : Char) : Position :=
  if c = '\n' then ⟨p.line + 1, 0⟩ else ⟨p.line, p.column + 1⟩

/-- The position after the whole character. -/
def after (p : Position) (c : Char) : Position :=
  if c = '\n' then ⟨p.line + 1, 0⟩ else ⟨p.line, p.column + c.utf8Size⟩

/-- The position `n` bytes further into a text. -/
def afterBytes (p : Position) : Nat → List Char → Position
  | 0, _ => p
  | _, [] => p
  | n, c :: rest =>
    if n < c.utf8Size then ⟨p.line, p.column + n⟩
    else (p.after c).afterBytes (n - c.utf8Size) rest

/-- The position at the end of a text. -/
def atEnd (p : Position) (text : List Char) : Position := text.foldl after p

end Position

/-- Why a text is not JSON. -/
inductive SyntaxCause where
  | endInValue
  | endInList
  | endInObject
  | endInString
  | expectedValue
  | expectedIdent
  | expectedListCommaOrEnd
  | expectedObjectCommaOrEnd
  | expectedColon
  | keyNotString
  | trailingComma
  | trailingCharacters
  | invalidNumber
  | numberOutOfRange
  | controlCharacter
  | invalidEscape
  | loneSurrogate
  | unexpectedEndOfHexEscape
  | recursionLimit
deriving DecidableEq

namespace SyntaxCause

/-- The wording of a cause. -/
def message : SyntaxCause → String
  | endInValue => "EOF while parsing a value"
  | endInList => "EOF while parsing a list"
  | endInObject => "EOF while parsing an object"
  | endInString => "EOF while parsing a string"
  | expectedValue => "expected value"
  | expectedIdent => "expected ident"
  | expectedListCommaOrEnd => "expected `,` or `]`"
  | expectedObjectCommaOrEnd => "expected `,` or `\x7d`"
  | expectedColon => "expected `:`"
  | keyNotString => "key must be a string"
  | trailingComma => "trailing comma"
  | trailingCharacters => "trailing characters"
  | invalidNumber => "invalid number"
  | numberOutOfRange => "number out of range"
  | controlCharacter => "control character (\\u0000-\\u001F) found while parsing a string"
  | invalidEscape => "invalid escape"
  | loneSurrogate => "lone leading surrogate in hex escape"
  | unexpectedEndOfHexEscape => "unexpected end of hex escape"
  | recursionLimit => "recursion limit exceeded"

end SyntaxCause

/-- A cause and where it was noticed. -/
structure SyntaxFault where
  cause : SyntaxCause
  position : Position
deriving DecidableEq

namespace SyntaxFault

/-- The message of a fault. -/
def message (fault : SyntaxFault) : String :=
  fault.cause.message ++ " at line " ++ toString fault.position.line ++
    " column " ++ toString fault.position.column

end SyntaxFault

end SchemaTypings
