import SchemaTypings.Json.Basic
import SchemaTypings.Binary64.Layout

/-!
# JSON text

The compact text of a value: no blanks, object keys in order, and strings that escape only the quote,
the backslash and the control characters below U+0020.
-/

namespace SchemaTypings.Json

/-- A hexadecimal digit in lower case. -/
def hexDigit (n : Nat) : Char := Nat.digitChar (n % 16)

/-- One character inside a quoted string. -/
def escapeChar (c : Char) : List Char :=
  if c = '"' then ['\\', '"']
  else if c = '\\' then ['\\', '\\']
  else if c.val = 8 then ['\\', 'b']
  else if c.val = 9 then ['\\', 't']
  else if c.val = 10 then ['\\', 'n']
  else if c.val = 12 then ['\\', 'f']
  else if c.val = 13 then ['\\', 'r']
  else if c.val < 32 then
    ['\\', 'u', '0', '0', hexDigit (c.toNat / 16), hexDigit c.toNat]
  else [c]

/-- A quoted string. -/
def quote (s : String) : String :=
  "\"" ++ String.ofList (s.toList.flatMap escapeChar) ++ "\""

end SchemaTypings.Json

namespace SchemaTypings

/-- The text of a number. -/
def JsonNumber.write : JsonNumber → String
  | .integer value => toString value
  | .binary value => Layout.json.write value

namespace Json

mutual

/-- The compact text of a value. -/
def write : Json → String
  | .null => "null"
  | .bool true => "true"
  | .bool false => "false"
  | .number value => value.write
  | .text value => quote value
  | .array items => "[" ++ String.intercalate "," (writeItems items) ++ "]"
  | .object fields => "\x7b" ++ String.intercalate "," (writeFields fields) ++ "\x7d"

/-- The texts of the items. -/
def writeItems : List Json → List String
  | [] => []
  | item :: rest => write item :: writeItems rest

/-- The texts of the fields. -/
def writeFields : List (String × Json) → List String
  | [] => []
  | field :: rest => writeField field :: writeFields rest

/-- A quoted key, a colon and the value. -/
def writeField : String × Json → String
  | (key, value) => quote key ++ ":" ++ write value

end

end Json

end SchemaTypings
