import SchemaTypings.Typing.Generate

/-!
# Objects in place and under a name

An object that no override skips is generated from the same parts in every context: inline they make
its type, and under a name they make a declaration that carries this type.
-/

namespace SchemaTypings

/-- A declaration that stands for a type. Only an object without any parts has another type in place
than the members of its interface. -/
inductive Declaration.Carries (d : Declaration) : TypeExpr → Prop
  | alias {type : TypeExpr} (h : d.body = .alias type) : Carries d type
  | interface {members : List (Member TypeExpr)} (h : d.body = .interface [] members)
      (hne : members ≠ []) : Carries d (.object members)
  | empty (h : d.body = .interface [] []) : Carries d (.stringIndex .any)

namespace ObjectTyping

variable {scope : Scope}

theorem carries_namedBody (d e : Descriptor) (name : String) (members : List (Member TypeExpr))
    (additional : Option TypeExpr) :
    (d.declared name (namedBody e members additional)).Carries (objectType e members additional) := by
  unfold namedBody
  by_cases h : (e.isInstanceOf.isNone && additional.isNone) = true
  · rw [if_pos h]
    rw [Bool.and_eq_true, Option.isNone_iff_eq_none, Option.isNone_iff_eq_none] at h
    unfold objectType
    rw [h.1, h.2]
    cases members with
    | nil => exact .empty rfl
    | cons m rest => exact .interface rfl (List.cons_ne_nil m rest)
  · rw [if_neg h]
    exact .alias rfl

/-- What is inside an object, given the types of the descriptors in it. -/
def objectParts (scope : Scope) (p : Descriptor) : List (Member TypeExpr) × Option TypeExpr :=
  ((members (scope.inlineWithin p.depth) scope p).value,
    (additionalType (scope.inlineWithin p.depth) p).value)

theorem value_attempt_object {d : Descriptor} (hk : d.kind? = some .object)
    (ho : d.overridden? = some d) (context : Context) :
    (scope.attempt d context).run.value =
      (typing (scope.inlineWithin d.depth) d scope context).run.value.map some := by
  rw [Scope.attempt, Scope.value_typing ho hk]
  rfl

theorem value_declaration_object {d : Descriptor} {name : String} (hk : d.kind? = some .object)
    (ho : d.overridden? = some d) (hid : d.id = some name) :
    (scope.declaration d .namespace).value =
      some (d.declared name
        (namedBody d (objectParts scope d).1 (objectParts scope d).2)) := by
  rw [Scope.value_declaration, value_attempt_object hk ho,
    value_typing_named _ _ hid]
  rfl

theorem value_inlineType_object {d : Descriptor} (hk : d.kind? = some .object)
    (ho : d.overridden? = some d) :
    (scope.inlineType d).value =
      some (objectType d (objectParts scope d).1 (objectParts scope d).2) := by
  rw [Scope.value_inlineType, value_attempt_object hk ho, value_typing_inline]
  rfl

end ObjectTyping

end SchemaTypings
