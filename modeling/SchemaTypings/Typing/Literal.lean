import SchemaTypings.Typing.Scope

/-!
# Literals and enumerations

Strings, numbers and booleans are types. An integer outside the signed 64-bit range becomes the
floating-point number nearest to it.
-/

namespace SchemaTypings

/-- The type of exactly one value; lists, objects and `null` have none. -/
def Json.literalType? : Json → Option TypeExpr
  | .text value => some (.literal (.string value))
  | .bool value => some (.literal (.bool value))
  | .number (.integer value) =>
    if value < JsonNumber.signedBound then some (.literal (.integer value))
    else some (.literal (.number (Binary64.ofInt value)))
  | .number (.binary value) => some (.literal (.number value))
  | .null | .array _ | .object _ => none

namespace EnumChoice

/-- The type of a choice, with its documentation. -/
def type? (choice : EnumChoice) : Option TypeExpr :=
  match choice with
  | other value => value.literalType?
  | plain value => some (.literal (.string value))
  | named name none => some (.literal (.string name))
  | named name (some description) =>
    some (.documented { description := some description } (.literal (.string name)))

/-- The union of the choices that have a type, `never` if none has. -/
def union (choices : List EnumChoice) : TypeExpr :=
  match choices.filterMap type? with
  | [] => .keyword .never
  | types => .union types

end EnumChoice

namespace Descriptor

/-- A constant value: its literal type, a constant or a property. -/
def staticValueTyping (d : Descriptor) (value : Json) (context : Context) :
    Generating Generated :=
  match value.literalType? with
  | none => throw (.invalidStaticValue value)
  | some type => do
    let slot ← d.slot "static-value" context
    pure (d.place type slot)

/-- `null`, which has no standalone form. -/
def nullTyping (context : Context) : Generating Generated :=
  match context with
  | .inline => pure (.type (.keyword .null))
  | .namespace | .interface => throw (.invalidContext "null" context)

end Descriptor

end SchemaTypings
