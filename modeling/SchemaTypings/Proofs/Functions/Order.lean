import SchemaTypings.Proofs.Functions.OverloadSet
import SchemaTypings.Proofs.Variants.Order

/-!
# Order of expanded signatures

Functions of a namespace and methods of an object are declared once for each variant of their parameters.
Whatever the schema declares, the optional parameters of what comes out stand last.

* `expanded_optionalLast`: the statement for both.
-/

namespace SchemaTypings

namespace FunctionTyping

/-- **Every function that a function of a namespace comes to has its optional parameters last.** -/
theorem optionalLast_expand {d : Descriptor} {scope : Scope} {g : Declaration}
    (h : g ∈ (expand d scope).value) (hg : g.isFunction = true) :
    OptionalLast (Param.marks g.params) := by
  obtain ⟨f, name, -, -, hmade | hown⟩ := mem_expand_cases h
  · rw [Declaration.not_isFunction_of_inTypeSpace ((prepare_made f name scope).inTypeSpace hmade)]
      at hg
    cases hg
  · rcases List.mem_append.mp hown with hvariant | hexport
    · obtain ⟨ps, hps, rfl⟩ := List.mem_map.mp hvariant
      rw [params_signatureDeclaration, Signature.marks_params]
      exact Variants.optionalLast_variant hps
    · obtain ⟨-, rfl⟩ := mem_exportOf.mp hexport
      cases hg

end FunctionTyping

namespace ObjectTyping

variable {inline : InlineTyping} {scope : Scope}

/-- The member for one variant is a method over it. -/
theorem methodSignature_eq_some {f : Descriptor} {ps : List Descriptor} {m : Member TypeExpr}
    (h : (methodSignature inline scope f ps).value = some m) :
    ∃ name returns doc, m = .method name
      (Signature.params inline (Signature.visible .consume ps)).value returns doc := by
  rw [methodSignature, Reporting.value_bind] at h
  cases hv : (Signature.typing inline f ps .consume .interface).run.value with
  | error cause =>
    rw [hv] at h
    cases h
  | ok generated =>
    rw [hv] at h
    obtain ⟨slot, returns, rfl⟩ := Signature.typing_eq_ok hv
    cases slot with
    | member name => exact ⟨name, returns, _, (Option.some.inj h).symm⟩
    | inline => cases h
    | declared => cases h

/-- **Every method that a method of an object comes to has its optional parameters last.** -/
theorem optionalLast_expandMethod {d : Descriptor} {m : Member TypeExpr}
    (h : m ∈ (expandMethod inline scope d).value) :
    ∃ name params returns doc, m = .method name params returns doc ∧
      OptionalLast (Param.marks params) := by
  unfold expandMethod at h
  cases hf : d.overridden? with
  | none =>
    rw [hf] at h
    exact absurd h List.not_mem_nil
  | some f =>
    rw [hf] at h
    dsimp only at h
    rw [Reporting.value_collect] at h
    obtain ⟨ps, hps, hm⟩ := List.mem_filterMap.mp h
    obtain ⟨name, returns, doc, rfl⟩ := methodSignature_eq_some hm
    refine ⟨name, _, returns, doc, rfl, ?_⟩
    rw [Signature.marks_params]
    exact Variants.optionalLast_variant hps

end ObjectTyping

/-- **Expanded signatures have their optional parameters last.** It holds for any number of inner
optional parameters, and at any depth, which is what the nested types are generated by. -/
theorem expanded_optionalLast (scope : Scope) (d : Descriptor) :
    (∀ g ∈ (FunctionTyping.expand d scope).value, g.isFunction = true →
      OptionalLast (Param.marks g.params)) ∧
    ∀ inline : InlineTyping, ∀ m ∈ (ObjectTyping.expandMethod inline scope d).value,
      ∃ name params returns doc, m = .method name params returns doc ∧
        OptionalLast (Param.marks params) :=
  ⟨fun _ h hg => FunctionTyping.optionalLast_expand h hg,
    fun _ _ h => ObjectTyping.optionalLast_expandMethod h⟩

/-- A function with an optional parameter in front, a callback in between and an optional parameter at
the end. -/
def moveFunction : Descriptor :=
  { typeName := some "function", name := some "move",
    parameters := some [
      { name := some "window", typeName := some "integer", optional := some (.flag true) },
      { name := some "callback", typeName := some "function", optional := some (.flag true) },
      { name := some "index", typeName := some "integer" },
      { name := some "focus", typeName := some "boolean", optional := some (.flag true) }] }

open FunctionTyping (expand emptyScope) in
theorem expanded_optionalLast_move :
    (∃ g ∈ (expand moveFunction emptyScope).value, g.isFunction = true ∧
      Param.marks g.params = [false, false, true] ∧ OptionalLast (Param.marks g.params)) ∧
    ∃ m ∈ (ObjectTyping.expandMethod emptyScope.inlineType emptyScope moveFunction).value,
      ∃ name params returns doc, m = .method name params returns doc ∧
        OptionalLast (Param.marks params) := by
  have hmarks : ((expand moveFunction emptyScope).value.map fun g =>
      (g.isFunction, Param.marks g.params)) =
        [(true, [false, false, true]), (true, [false, true])] := by decide +kernel
  have hmethods : 0 < (ObjectTyping.expandMethod emptyScope.inlineType emptyScope
      moveFunction).value.length := by decide +kernel
  obtain ⟨hfunctions, hmethod⟩ := expanded_optionalLast emptyScope moveFunction
  refine ⟨?_, ?_⟩
  · obtain ⟨g, hg, he⟩ := List.mem_map.mp (hmarks ▸ List.mem_cons_self)
    obtain ⟨hf, hp⟩ := Prod.mk.inj he
    exact ⟨g, hg, hf, hp, hfunctions g hg hf⟩
  · obtain ⟨m, hm⟩ := List.exists_mem_of_length_pos hmethods
    exact ⟨m, hm, hmethod emptyScope.inlineType m hm⟩

end SchemaTypings
