import SchemaTypings.Proofs.Report.Outcomes
import SchemaTypings.Proofs.Variants.Positions
import SchemaTypings.Typing.Signature

/-!
# Optional parameters last

A parameter list is in order when no mandatory parameter follows an optional one. It is a matter of the
optional marks alone, and these a signature takes over from the descriptors of its parameters.

* `Signature.marks_params`: the marks of a signature.
* `Variants.optionalLast_variant`: what a signature shows of a variant is in order.
-/

namespace SchemaTypings

/-- No mandatory parameter follows an optional one, told by the marks of the parameters. -/
def OptionalLast (marks : List Bool) : Prop := marks.Pairwise fun a b => a = true → b = true

instance (marks : List Bool) : Decidable (OptionalLast marks) :=
  inferInstanceAs (Decidable (marks.Pairwise _))

/-- The optional marks of the parameters of a signature. -/
def Param.marks (ps : List (Param TypeExpr)) : List Bool := ps.map (·.optional)

/-- The optional marks of declared parameters. -/
def Descriptor.marks (ps : List Descriptor) : List Bool := ps.map (·.isOptional)

theorem optionalLast_cons {mark : Bool} {rest : List Bool} :
    OptionalLast (mark :: rest) ↔ (mark = true → ∀ b ∈ rest, b = true) ∧ OptionalLast rest := by
  rw [OptionalLast, List.pairwise_cons]
  exact and_congr_left' ⟨fun h ha b hb => h b hb ha, fun h b hb ha => h ha b hb⟩

theorem optionalLast_false_cons {rest : List Bool} :
    OptionalLast (false :: rest) ↔ OptionalLast rest := by
  rw [optionalLast_cons]
  exact and_iff_right nofun

/-- Mandatory parameters in front do not matter. -/
theorem optionalLast_append {front rest : List Bool} (h : ∀ a ∈ front, a = false) :
    OptionalLast (front ++ rest) ↔ OptionalLast rest := by
  induction front with
  | nil => exact Iff.rfl
  | cons a front ih =>
    rw [h a List.mem_cons_self, List.cons_append, optionalLast_false_cons]
    exact ih fun b hb => h b (List.mem_cons_of_mem a hb)

theorem optionalLast_of_forall {marks : List Bool} (h : ∀ b ∈ marks, b = true) :
    OptionalLast marks :=
  List.pairwise_of_forall_mem_list fun _ _ b hb _ => h b hb

/-- A signature takes over the marks of its parameters. -/
theorem Signature.marks_params (inline : InlineTyping) (ps : List Descriptor) :
    Param.marks (Signature.params inline ps).value = Descriptor.marks ps := by
  rw [Param.marks, Descriptor.marks, Signature.value_params]
  refine List.ext_getElem? fun i => ?_
  rw [List.getElem?_map, List.getElem?_mapIdx, List.getElem?_map, Option.map_map]
  rfl

/-- A signature that is generated shows its parameters in some place. -/
theorem Signature.typing_eq_ok {inline : InlineTyping} {d : Descriptor} {ps : List Descriptor}
    {handling : CallbackHandling} {context : Context} {g : Generated}
    (h : (Signature.typing inline d ps handling context).run.value = .ok g) :
    ∃ slot returns, g = place d (visible handling ps)
      (Signature.params inline (visible handling ps)).value returns slot := by
  obtain ⟨slot, -, h⟩ := Reporting.run_bind_eq_ok.mp h
  obtain ⟨returns, -, h⟩ := Reporting.run_bind_eq_ok.mp h
  obtain ⟨params, hparams, h⟩ := Reporting.run_bind_eq_ok.mp h
  cases h
  rw [Reporting.run_lift_eq_ok] at hparams
  exact ⟨slot, returns, by rw [hparams]⟩

namespace Variants

open Signature (visible)

/-- Without a mandatory parameter there is nothing to choose. -/
theorem variantFrom_eq_self {params : List Descriptor}
    (h : ∀ q ∈ params, q.isCallback = true ∨ q.isOptional = true) (keep : Nat → Bool)
    (rank : Nat) : variantFrom keep rank params = params := by
  induction params generalizing rank with
  | nil => rfl
  | cons p rest ih =>
    have hrest : ∀ q ∈ rest, q.isCallback = true ∨ q.isOptional = true :=
      fun q hq => h q (List.mem_cons_of_mem p hq)
    have hin : isInner p rest = false := by
      rw [isInner, List.any_eq_false.mpr, Bool.and_false]
      intro q hq
      rcases hrest q hq with hq | hq <;> simp [hq]
    rw [variantFrom, hin, if_neg Bool.false_ne_true, ih hrest]

/-- Behind an optional parameter that is no inner one there is no mandatory one. -/
theorem optional_of_not_isInner {p : Descriptor} {later : List Descriptor}
    (hin : isInner p later = false) (hcallback : p.isCallback = false)
    (hp : p.isOptional = true) : ∀ q ∈ later, q.isCallback = true ∨ q.isOptional = true := by
  rw [isInner, hcallback, hp, Bool.not_false, Bool.true_and, Bool.true_and,
    List.any_eq_false] at hin
  intro q hq
  have := hin q hq
  cases hc : q.isCallback <;> cases ho : q.isOptional <;> simp_all

theorem marks_visible_cons (p : Descriptor) (rest : List Descriptor) :
    Descriptor.marks (visible .consume (p :: rest)) =
      if p.isCallback then Descriptor.marks (visible .consume rest)
      else p.isOptional :: Descriptor.marks (visible .consume rest) := by
  rw [visible, List.filter_cons]
  cases p.isCallback <;> rfl

theorem optionalLast_variantFrom (keep : Nat → Bool) (rank : Nat) (params : List Descriptor) :
    OptionalLast (Descriptor.marks (visible .consume (variantFrom keep rank params))) := by
  induction params generalizing rank with
  | nil => exact .nil
  | cons p rest ih =>
    rw [variantFrom]
    by_cases hin : isInner p rest = true
    · -- what stays of the inner optional parameters is mandatory
      rw [if_pos hin]
      dsimp only
      split
      · have hp : p.isCallback = false := not_isCallback_of_isInner hin
        have hcallback : (p.withOptional false).isCallback = false := hp
        rw [marks_visible_cons, hcallback, if_neg Bool.false_ne_true,
          Descriptor.isOptional_withOptional, optionalLast_false_cons]
        exact ih (rank + 1)
      · exact ih (rank + 1)
    · rw [if_neg hin, marks_visible_cons]
      split
      next => exact ih rank
      next hcallback =>
        refine optionalLast_cons.mpr ⟨fun hp b hb => ?_, ih rank⟩
        -- behind it nothing is mandatory, so the rest of the variant is the rest of the list
        have hlater := optional_of_not_isInner (Bool.eq_false_iff.mpr hin)
          (Bool.eq_false_iff.mpr hcallback) hp
        rw [variantFrom_eq_self hlater] at hb
        obtain ⟨q, hq, rfl⟩ := List.mem_map.mp hb
        obtain ⟨hq, hshown⟩ := List.mem_filter.mp hq
        exact (hlater q hq).resolve_left (by simpa using hshown)

/-- **What a signature shows of a variant is in order.** -/
theorem optionalLast_variant {params ps : List Descriptor} (h : ps ∈ all params) :
    OptionalLast (Descriptor.marks (visible .consume ps)) := by
  rw [all_eq_map] at h
  obtain ⟨number, -, rfl⟩ := List.mem_map.mp h
  exact optionalLast_variantFrom _ 0 params

end Variants

end SchemaTypings
