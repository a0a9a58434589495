import SchemaTypings.Proofs.Functions.OverloadSet
import SchemaTypings.Proofs.Typing.Visits

/-!
# What is generated for a function

For a function the types of its parts are generated, once for each variant, and before that the
declarations of the parameters that become types.

* `quiet_hoistParams`, `quiet_expandNamed`: when a function reports nothing, none of this does.
* `mem_made_cases`: everything made for the parameters is made by one of them.
-/

namespace SchemaTypings.FunctionTyping

open Reporting (Quiet diagnostics_bind_eq_nil)

variable {functionName : String} {scope : Scope}

/-! ## Parameters -/

/-- A parameter is to become a declaration under a name, which is free when the parameter has its
turn. -/
inductive Hoists (functionName : String) (scope : Scope) :
    List Declaration → List Descriptor → Descriptor → String → Prop
  | here {made : List Declaration} {p : Descriptor} {rest : List Descriptor} {paramName : String}
      (hname : p.name = some paramName) (hp : isHoistable p = true)
      (free : isTaken scope made (hoistedName functionName paramName) = false) :
      Hoists functionName scope made (p :: rest) p (hoistedName functionName paramName)
  | later {made : List Declaration} {p q : Descriptor} {rest : List Descriptor} {name : String}
      (h : Hoists functionName scope (hoistParam functionName scope made p).value.2 rest q name) :
      Hoists functionName scope made (p :: rest) q name

theorem quiet_hoistParam {made : List Declaration} {p : Descriptor} {paramName : String}
    (h : (hoistParam functionName scope made p).diagnostics = [])
    (hname : p.name = some paramName) (hp : isHoistable p = true)
    (free : isTaken scope made (hoistedName functionName paramName) = false) :
    (scope.declaration (asNamedType p (hoistedName functionName paramName))
      .namespace).diagnostics = [] := by
  unfold hoistParam at h
  rw [hname] at h
  dsimp only at h
  rw [if_neg (by simp [hp]), if_neg (by simp [free])] at h
  exact (diagnostics_bind_eq_nil.mp h).1

theorem quiet_hoistParams {made : List Declaration} {ps : List Descriptor} {p : Descriptor}
    {name : String} (h : (hoistParams functionName scope made ps).diagnostics = [])
    (hp : Hoists functionName scope made ps p name) :
    (scope.declaration (asNamedType p name) .namespace).diagnostics = [] := by
  induction hp with
  | here hname hp free => exact quiet_hoistParam (diagnostics_bind_eq_nil.mp h).1 hname hp free
  | later _ ih => exact ih (diagnostics_bind_eq_nil.mp (diagnostics_bind_eq_nil.mp h).2).1

/-- Everything made for parameters was there before or is made by one of them. -/
theorem mem_made_cases {made : List Declaration} {ps : List Descriptor} {decl : Declaration}
    (h : decl ∈ (hoistParams functionName scope made ps).value.2) :
    decl ∈ made ∨ ∃ p name, Hoists functionName scope made ps p name ∧
      (scope.declaration (asNamedType p name) .namespace).value = some decl := by
  induction ps generalizing made with
  | nil => exact .inl h
  | cons p rest ih =>
    rw [hoistParams_cons] at h
    rcases ih h with h | ⟨q, name, hq, hdecl⟩
    · have hcases := hoistParam_cases functionName scope made p
      generalize (hoistParam functionName scope made p).value = result at hcases h
      cases hcases with
      | kept => exact .inl h
      | reused => exact .inl h
      | own hname hp free hd =>
        rcases List.mem_append.mp h with h | h
        · exact .inl h
        · rw [List.mem_singleton.mp h]
          exact .inr ⟨p, _, .here hname hp free, hd⟩
    · exact .inr ⟨q, name, .later hq, hdecl⟩

/-! ## Variants -/

variable {f : Descriptor} {name : String}

theorem quiet_overload (hn : f.identifier? = some name) {ps : List Descriptor}
    (h : (overload f name scope ps).diagnostics = []) :
    ∃ g, Quiet (Signature.typing scope.inlineType f ps .consume .namespace) g ∧
      (signatureDeclaration f name scope ps).types = g.types := by
  have hvalue :=
    Signature.value_typing scope.inlineType (Descriptor.slot_namespace hn "function") ps .consume
  refine ⟨_, ⟨hvalue, (diagnostics_bind_eq_nil.mp h).1⟩, ?_⟩
  unfold signatureDeclaration
  dsimp only
  split <;> rfl

/-- What a function that reports nothing is made of reports nothing. -/
theorem quiet_expandNamed (h : (expandNamed f name scope).diagnostics = []) :
    (prepare f name scope).diagnostics = [] ∧
      ∀ ps ∈ Variants.all (prepare f name scope).value.1,
        (overload f name (scope.extend (prepare f name scope).value.2) ps).diagnostics = [] := by
  rw [diagnostics_expandNamed] at h
  dsimp only at h
  rw [List.append_eq_nil_iff, List.append_eq_nil_iff, List.flatMap_eq_nil_iff] at h
  exact h.2

end SchemaTypings.FunctionTyping
