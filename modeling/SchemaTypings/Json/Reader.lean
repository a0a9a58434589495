import SchemaTypings.Json.Basic

/-!
# Readers of JSON text

Schema files are read with the help of a JSON library. All that is taken from it is a `JsonReader`, so
what is made of schema files can be told for any reader. The one that the program runs with is in
`Json.Parser`.
-/

namespace SchemaTypings

/-- A reader of whole JSON texts. -/
class JsonReader where
  /-- The value of a text, or what is wrong with the text, in words. -/
  read : String → Except String Json

end SchemaTypings
