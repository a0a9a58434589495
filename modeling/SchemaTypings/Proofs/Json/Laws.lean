import SchemaTypings.Json.Parser

/-!
# What a reader of JSON text keeps to

Whether a character of a JSON text stands in a string is decided by the quotes and backslashes in front
of it. `JsonReader.Lawful` says three things about reading that need no more than this. They are part of
what JSON is: it has no comments, its strings hold no raw control characters, and blanks between its
tokens do not count.

* `Place.atEnd`: the place behind a text.
* `JsonReader.Lawful`: the laws.
-/

namespace SchemaTypings

/-! ## Places -/

/-- Where a character stands in a JSON text. -/
inductive Place where
  | outside
  | inString
  /-- In a string, right behind a backslash. -/
  | escaped
deriving DecidableEq

namespace Place

/-- The place behind a character. -/
def after : Place → Char → Place
  | outside, c => if c = '"' then inString else outside
  | inString, c => if c = '"' then outside else if c = '\\' then escaped else inString
  | escaped, _ => inString

/-- The place behind a text. -/
def atEnd (place : Place) (text : List Char) : Place := text.foldl after place

theorem after_outside {c : Char} (h : c ≠ '"') : outside.after c = outside := if_neg h

theorem after_inString {c : Char} (hquote : c ≠ '"') (hescape : c ≠ '\\') :
    inString.after c = inString := by
  rw [after, if_neg hquote, if_neg hescape]

@[simp]
theorem atEnd_cons (place : Place) (c : Char) (text : List Char) :
    place.atEnd (c :: text) = (place.after c).atEnd text := rfl

@[simp]
theorem atEnd_append (place : Place) (text more : List Char) :
    place.atEnd (text ++ more) = (place.atEnd text).atEnd more := List.foldl_append

end Place

/-! ## Laws -/

namespace Json

/-- The text is empty or begins with a blank. -/
def IsGap (text : List Char) : Prop := ∀ c ∈ text.head?, isBlank c = true

theorem IsGap.nil : IsGap [] := nofun

theorem IsGap.cons {c : Char} (h : isBlank c = true) (text : List Char) : IsGap (c :: text) := by
  rintro _ ⟨⟩
  exact h

end Json

namespace JsonReader

/-- What every reader of JSON text keeps to, whatever else it does. -/
structure Lawful [JsonReader] : Prop where
  /-- There are no comments: a slash stands in a string. -/
  no_slash {front rest : List Char} {value : Json}
    (h : read (.ofList (front ++ '/' :: rest)) = .ok value) : Place.outside.atEnd front ≠ .outside
  /-- In strings there are no control characters as such. -/
  no_control {front rest : List Char} {c : Char} {value : Json}
    (h : read (.ofList (front ++ c :: rest)) = .ok value) (hc : c.toNat < 32) :
    Place.outside.atEnd front = .outside
  /-- Outside of strings blanks do not count: one of them may be left out if there is another one, or
  nothing, behind it. -/
  blank {front rest : List Char} {c : Char} {value : Json}
    (h : read (.ofList (front ++ c :: rest)) = .ok value)
    (hplace : Place.outside.atEnd front = .outside) (hc : Json.isBlank c = true)
    (hgap : Json.IsGap rest) : read (.ofList (front ++ rest)) = .ok value

end JsonReader

end SchemaTypings
