import SchemaTypings.Descriptor.Depth
import SchemaTypings.Descriptor.Kind
import SchemaTypings.Typing.Literal
import SchemaTypings.Typing.Object
import SchemaTypings.Typing.Reference

/-!
# From descriptors to types and declarations

`Scope.attempt` applies the overrides, decides the kind of a descriptor and generates it in a
context. `Scope.generate` contains a failure: it is reported and costs that node alone.

Generators meet nested descriptors through a function for their types, so that the recursion stands in
one place, `Scope.inlineWithin`. It goes down at most the given number of levels. An override can add
one level below a descriptor, and what it adds is not overridden again, so the nesting depth plus one
is always enough.
-/

namespace SchemaTypings

namespace Descriptor

/-- A union; its choices are types. -/
def unionTyping (inline : InlineTyping) (d : Descriptor) (choices : List Descriptor)
    (context : Context) : Generating Generated := do
  let id ← d.contextId (.unionWithoutId context) context
  let types ← Reporting.collect inline choices
  if types.isEmpty then throw (.emptyUnion d.label)
  pure (match id with
    | none => .type (.union types)
    | some name => .declaration (d.declared name (.alias (.union types))))

/-- A list; items without a type may be anything. -/
def arrayTyping (inline : InlineTyping) (d items : Descriptor) (context : Context) :
    Generating Generated := do
  let item ← inline items
  d.typeOrAlias (.array (item.getD .any)) "array" context

/-- Generate a descriptor of a known kind. -/
def kindTyping (inline : InlineTyping) (scope : Scope) (d : Descriptor) (kind : Kind)
    (context : Context) : Generating Generated :=
  match kind with
  | .null => nullTyping context
  | .any => d.typeOrAlias .any kind.name context
  | .boolean => d.typeOrAlias (.keyword .boolean) kind.name context
  | .integer => d.typeOrAlias (.keyword .number) kind.name context
  | .number => d.typeOrAlias (.keyword .number) kind.name context
  | .string => d.typeOrAlias (.keyword .string) kind.name context
  | .enumString choices => d.typeOrAlias (EnumChoice.union choices) kind.name context
  | .function => Signature.typing inline d d.params d.callbackHandling context
  | .array items => d.arrayTyping inline items context
  | .union choices => d.unionTyping inline choices context
  | .reference target => d.referenceTyping target scope context
  | .object => ObjectTyping.typing inline d scope context
  | .staticValue value => d.staticValueTyping value context

end Descriptor

namespace Scope

/-- Generate a descriptor, given the types of nested ones; no answer for a skipped node. -/
def typing (scope : Scope) (inline : InlineTyping) (d : Descriptor) (context : Context) :
    Generating (Option Generated) :=
  match d.overridden? with
  | none => do
    (Reporting.note (.skippedByOverride scope.space d.label) : Reporting PUnit)
    pure none
  | some d =>
    match d.kind? with
    | none => throw (.unclassifiable d.label)
    | some kind => some <$> d.kindTyping inline scope kind context

/-- Report a failure to generate a descriptor. -/
def contain (scope : Scope) (d : Descriptor) (context : Context)
    (generating : Generating (Option Generated)) : Reporting (Option Generated) := do
  match ← generating.run with
  | .ok generated => pure generated
  | .error cause =>
    scope.error (.failedTyping d.label context cause)
    pure none

/-- The type of a descriptor, going down at most the given number of levels. -/
def inlineWithin (scope : Scope) : Nat → InlineTyping
  | 0, _ => pure none
  | levels + 1, d => do
    let generated ← scope.contain d .inline (scope.typing (inlineWithin scope levels) d .inline)
    pure (generated.bind Generated.type?)

/-- Generate a descriptor; the failure is for the caller. -/
def attempt (scope : Scope) (d : Descriptor) (context : Context) :
    Generating (Option Generated) :=
  scope.typing (scope.inlineWithin d.depth) d context

/-- Generate a descriptor; a failure is reported. -/
def generate (scope : Scope) (d : Descriptor) (context : Context) :
    Reporting (Option Generated) :=
  scope.contain d context (scope.attempt d context)

/-- The type of a descriptor; a failure is reported. -/
def inlineType (scope : Scope) : InlineTyping := fun d => do
  let generated ← scope.generate d .inline
  pure (generated.bind Generated.type?)

/-- The declaration of a descriptor; a failure is reported. -/
def declaration (scope : Scope) (d : Descriptor) (context : Context) :
    Reporting (Option Declaration) := do
  let generated ← scope.generate d context
  pure (generated.bind Generated.declaration?)

/-! ## Values -/

theorem value_contain (scope : Scope) (d : Descriptor) (context : Context)
    (generating : Generating (Option Generated)) :
    (scope.contain d context generating).value = generating.run.value.toOption.join := by
  unfold contain
  rw [Reporting.value_bind]
  cases generating.run.value <;> rfl

theorem value_typing_skipped {scope : Scope} {d : Descriptor} (h : d.overridden? = none)
    (inline : InlineTyping) (context : Context) :
    (scope.typing inline d context).run.value = .ok none := by
  unfold typing
  rw [h]
  rfl

theorem value_typing {scope : Scope} {d d' : Descriptor} {kind : Kind}
    (hd : d.overridden? = some d') (hk : d'.kind? = some kind) (inline : InlineTyping)
    (context : Context) :
    (scope.typing inline d context).run.value =
      (d'.kindTyping inline scope kind context).run.value.map some := by
  unfold typing
  simp only [hd, hk, ExceptT.run_map, Reporting.value_map]

theorem value_declaration (scope : Scope) (d : Descriptor) (context : Context) :
    (scope.declaration d context).value =
      (scope.attempt d context).run.value.toOption.join.bind Generated.declaration? := by
  rw [declaration, Reporting.value_bind, Reporting.value_pure, generate, value_contain]

theorem value_inlineType (scope : Scope) (d : Descriptor) :
    (scope.inlineType d).value =
      (scope.attempt d .inline).run.value.toOption.join.bind Generated.type? := by
  rw [inlineType, Reporting.value_bind, Reporting.value_pure, generate, value_contain]

end Scope

end SchemaTypings
