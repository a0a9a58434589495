import SchemaTypings.Descriptor.Encoder

/-!
# Overrides

A few nodes are handled by a table before their kind is looked at. A rule applies to a descriptor when
every key of its pattern stands, with an equal value, in the descriptor's JSON; the first rule that
applies decides. Most descriptors are settled without writing them out: an unsupported one is skipped,
and one without id and name meets no other rule.
-/

namespace SchemaTypings

/-- What a rule does with a descriptor. -/
inductive OverrideAction where
  /-- Generate nothing. -/
  | skip
  /-- Use another descriptor instead. -/
  | reshape (replacement : Descriptor → Descriptor)

/-- A pattern and what to do with the descriptors it fits. -/
structure OverrideRule where
  pattern : Fields Json
  action : OverrideAction

namespace OverrideRule

/-- Whether every key of the pattern is a field with an equal value. -/
def applies (rule : OverrideRule) (fields : Fields Json) : Bool :=
  rule.pattern.all fun (key, expected) => Fields.find? key fields == some expected

end OverrideRule

namespace Descriptor

/-- The single optional parameter of a response callback. -/
def responseParameter : Descriptor :=
  { name := some "response", typeName := some "any", optional := some (.flag true) }

/-- The name of the parameter that sends a response. -/
def responderName : String := "sendResponse"

/-- Give a response callback its single parameter; other parameters stay. -/
def asResponder (d : Descriptor) : Descriptor :=
  if d.name == some responderName then { d with parameters := some [responseParameter] } else d

/-- Give the response callbacks among the parameters their single parameter. -/
def reshapeResponders (d : Descriptor) : Descriptor :=
  { d with parameters := d.parameters.map (·.map asResponder) }

/-- The rules in order. Image data is converted to an address at run time, outside of what a
declaration can describe. -/
def overrideRules : List OverrideRule := [
  ⟨[("id", .text "ImageData"), ("isInstanceOf", .text "ImageData"),
    ("postprocess", .text "convertImageDataToURL"), ("type", .text "object")], .skip⟩,
  ⟨[("unsupported", .bool true)], .skip⟩,
  ⟨[("name", .text "onMessageExternal"), ("type", .text "function")],
    .reshape reshapeResponders⟩]

/-- What the table says about a descriptor. -/
def override? (d : Descriptor) : Option OverrideAction :=
  if d.isUnsupported then some .skip
  else if d.id.isNone && d.name.isNone then none
  else
    let fields := d.toJson.fields?.getD []
    (overrideRules.find? (·.applies fields)).map (·.action)

/-- The descriptor to generate in place of this one, `none` if it is skipped. -/
def overridden? (d : Descriptor) : Option Descriptor :=
  match d.override? with
  | some .skip => none
  | some (.reshape replacement) => some (replacement d)
  | none => some d

end Descriptor

end SchemaTypings
