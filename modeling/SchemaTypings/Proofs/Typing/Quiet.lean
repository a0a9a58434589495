import SchemaTypings.Proofs.Report.Outcomes
import SchemaTypings.Proofs.Typing.Part

/-!
# Generators that report nothing

If generating a descriptor reports nothing, then generating its parts reports nothing, and a reference
among them was found.

* `quiet_kindTyping`: one case for each kind.
* `quiet_typing`: the same, behind the overrides.
-/

namespace SchemaTypings

open Reporting (Quiet quiet_bind quiet_lift collect_quiet collectAll_quiet diagnostics_bind_eq_nil)

namespace Scope

variable {scope : Scope} {inline : InlineTyping}

/-! ## References -/

/-- The target of a reference is found where it is looked for. -/
def Resolves (scope : Scope) (target : String) : Prop :=
  match splitAtLastDot? target with
  | some (space, id) => scope.catalog.hasType space id = true
  | none => scope.isLocal target = true

theorem quiet_resolve {target : String} (h : (scope.resolve target).diagnostics = []) :
    scope.Resolves target ∧ (scope.resolve target).value = target := by
  unfold resolve at h ⊢
  unfold Resolves
  cases hs : splitAtLastDot? target with
  | some parts =>
    rw [hs] at h
    dsimp only at h ⊢
    by_cases hfound : scope.catalog.hasType parts.1 parts.2 = true
    · exact ⟨hfound, by rw [if_neg (by simp [hfound])]; rfl⟩
    · rw [if_pos (by simp [hfound])] at h
      cases h
  | none =>
    rw [hs] at h
    dsimp only at h ⊢
    by_cases hlocal : scope.isLocal target = true
    · exact ⟨hlocal, by rw [if_pos hlocal]; rfl⟩
    · rw [if_neg hlocal] at h
      split at h <;> cases h

/-! ## Signatures -/

theorem quiet_signature {d : Descriptor} {ps : List Descriptor} {handling : CallbackHandling}
    {context : Context} {g : Generated} (h : Quiet (Signature.typing inline d ps handling context) g) :
    ∀ e, Signature.Part inline d ps handling e → (inline e).diagnostics = [] := by
  obtain ⟨slot, -, h⟩ := quiet_bind.mp h
  obtain ⟨returns, hreturns, h⟩ := quiet_bind.mp h
  obtain ⟨params, hparams, -⟩ := quiet_bind.mp h
  have hreturns := (quiet_lift.mp hreturns).2
  have hparams := (quiet_lift.mp hparams).2
  rw [Signature.diagnostics_returnType, List.append_eq_nil_iff] at hreturns
  rw [Signature.diagnostics_params, List.flatMap_eq_nil_iff] at hparams
  intro e he
  cases he with
  | result hc =>
    have hresult := hreturns.1
    rw [hc] at hresult
    exact hresult
  | returned hr hv =>
    have hreturned := hreturns.2
    rw [if_pos hv, hr] at hreturned
    exact hreturned
  | param hp => exact hparams e hp

/-! ## Objects -/

theorem quiet_propertyMember {d : Descriptor} {entry : String × Descriptor}
    (h : (ObjectTyping.propertyMember inline scope d entry).diagnostics = []) :
    (inline entry.2).diagnostics = [] :=
  (diagnostics_bind_eq_nil.mp h).1

theorem quiet_patternType {d : Descriptor} {entry : String × Descriptor}
    (h : (ObjectTyping.patternType inline scope d entry).diagnostics = []) :
    (inline entry.2).diagnostics = [] :=
  (diagnostics_bind_eq_nil.mp h).1

theorem quiet_methodSignature {g : Descriptor} {ps : List Descriptor}
    (h : (ObjectTyping.methodSignature inline scope g ps).diagnostics = []) :
    ∀ e, Signature.Part inline g ps .consume e → (inline e).diagnostics = [] := by
  obtain ⟨hrun, hreport⟩ := diagnostics_bind_eq_nil.mp h
  cases hv : (Signature.typing inline g ps .consume .interface).run.value with
  | ok generated => exact quiet_signature ⟨hv, hrun⟩
  | error cause =>
    rw [hv] at hreport
    cases hreport

theorem quiet_methodMembers {d f g : Descriptor} {ps : List Descriptor}
    (h : (ObjectTyping.methodMembers inline scope d f).diagnostics = [])
    (hs : f.isUnsupported = false) (hg : f.overridden? = some g)
    (hps : ps ∈ Variants.all g.params) :
    (ObjectTyping.methodSignature inline scope g ps).diagnostics = [] := by
  rw [ObjectTyping.methodMembers, if_neg (by simp [hs]), ObjectTyping.expandMethod, hg] at h
  exact collect_quiet h ps hps

theorem quiet_additionalType {d e : Descriptor}
    (h : (ObjectTyping.additionalType inline d).diagnostics = [])
    (he : d.additionalProperties = some (.schema e)) : (inline e).diagnostics = [] := by
  rw [ObjectTyping.additionalType, he] at h
  exact (diagnostics_bind_eq_nil.mp h).1

theorem quiet_object {d : Descriptor} {context : Context} {g : Generated}
    (h : Quiet (ObjectTyping.typing inline d scope context) g) :
    ∀ e, ObjectTyping.Part inline d e → (inline e).diagnostics = [] := by
  obtain ⟨id, -, h⟩ := quiet_bind.mp h
  obtain ⟨members, hmembers, h⟩ := quiet_bind.mp h
  obtain ⟨additional, hadditional, -⟩ := quiet_bind.mp h
  obtain ⟨hproperties, hrest⟩ := diagnostics_bind_eq_nil.mp (quiet_lift.mp hmembers).2
  obtain ⟨hmethods, hrest⟩ := diagnostics_bind_eq_nil.mp hrest
  obtain ⟨hpatterns, -⟩ := diagnostics_bind_eq_nil.mp hrest
  intro e he
  cases he with
  | property hp => exact quiet_propertyMember (collect_quiet hproperties _ hp)
  | method hf hs hg hps hpart =>
    have hmethod := quiet_methodMembers (collectAll_quiet hmethods _ hf) hs hg hps
    exact quiet_methodSignature hmethod e hpart
  | pattern hp => exact quiet_patternType (collect_quiet hpatterns _ hp)
  | additional ha => exact quiet_additionalType (quiet_lift.mp hadditional).2 ha

/-! ## Descriptors of every kind -/

/-- The parts of a descriptor that reports nothing report nothing. -/
theorem quiet_kindTyping {d : Descriptor} {kind : Kind} {context : Context} {g : Generated}
    (hk : d.kind? = some kind) (h : Quiet (d.kindTyping inline scope kind context) g) :
    ∀ e, d.Part inline e → (inline e).diagnostics = [] := by
  intro e he
  cases he with
  | item hi =>
    cases hk.symm.trans hi
    obtain ⟨item, hitem, -⟩ := quiet_bind.mp h
    exact (quiet_lift.mp hitem).2
  | choice hc hmem =>
    cases hk.symm.trans hc
    obtain ⟨id, -, h⟩ := quiet_bind.mp h
    obtain ⟨types, htypes, -⟩ := quiet_bind.mp h
    exact collect_quiet (quiet_lift.mp htypes).2 e hmem
  | signature hs hpart =>
    cases hk.symm.trans hs
    exact quiet_signature h e hpart
  | member ho hpart =>
    cases hk.symm.trans ho
    exact quiet_object h e hpart

theorem quiet_referenceTyping {d : Descriptor} {target : String} {context : Context}
    {g : Generated} (h : Quiet (d.referenceTyping target scope context) g) :
    scope.Resolves target ∧ ∃ slot, g = d.place (.reference target) slot := by
  obtain ⟨slot, -, h⟩ := quiet_bind.mp h
  obtain ⟨found, hfound, h⟩ := quiet_bind.mp h
  obtain ⟨rfl, hquiet⟩ := quiet_lift.mp hfound
  obtain ⟨hresolves, hvalue⟩ := quiet_resolve hquiet
  rw [hvalue] at h
  cases h.1
  exact ⟨hresolves, slot, rfl⟩

theorem quiet_typing {d d' : Descriptor} {context : Context} {generated : Option Generated}
    (ho : d.overridden? = some d') (h : Quiet (scope.typing inline d context) generated) :
    ∃ kind g, d'.kind? = some kind ∧ generated = some g ∧
      Quiet (d'.kindTyping inline scope kind context) g := by
  unfold typing at h
  rw [ho] at h
  dsimp only at h
  cases hk : d'.kind? with
  | none =>
    rw [hk] at h
    cases h.1
  | some kind =>
    rw [hk] at h
    obtain ⟨hvalue, hquiet⟩ := h
    simp only [ExceptT.run_map, Reporting.value_map, Reporting.diagnostics_map] at hvalue hquiet
    cases hv : (d'.kindTyping inline scope kind context).run.value with
    | error fault =>
      rw [hv] at hvalue
      cases hvalue
    | ok g =>
      rw [hv] at hvalue
      cases hvalue
      exact ⟨kind, g, rfl, rfl, hv, hquiet⟩

theorem quiet_contain {d : Descriptor} {context : Context}
    {generating : Generating (Option Generated)}
    (h : (scope.contain d context generating).diagnostics = []) :
    Quiet generating (scope.contain d context generating).value := by
  obtain ⟨hrun, hreport⟩ := diagnostics_bind_eq_nil.mp h
  rw [value_contain]
  cases hv : generating.run.value with
  | ok generated => exact ⟨hv, hrun⟩
  | error cause =>
    rw [hv] at hreport
    cases hreport

theorem quiet_generate {d d' : Descriptor} {context : Context} (ho : d.overridden? = some d')
    (h : (scope.generate d context).diagnostics = []) :
    ∃ kind g, d'.kind? = some kind ∧ (scope.generate d context).value = some g ∧
      Quiet (d'.kindTyping (scope.inlineWithin d.depth) scope kind context) g :=
  quiet_typing ho (quiet_contain h)

theorem quiet_declaration {d d' : Descriptor} {context : Context} (ho : d.overridden? = some d')
    (h : (scope.declaration d context).diagnostics = []) :
    ∃ kind g, d'.kind? = some kind ∧ (scope.declaration d context).value = g.declaration? ∧
      Quiet (d'.kindTyping (scope.inlineWithin d.depth) scope kind context) g := by
  obtain ⟨kind, g, hk, hg, hquiet⟩ := quiet_generate ho (diagnostics_bind_eq_nil.mp h).1
  refine ⟨kind, g, hk, ?_, hquiet⟩
  rw [declaration, Reporting.value_bind, Reporting.value_pure, hg, Option.bind_some]

theorem quiet_inlineType {d d' : Descriptor} (ho : d.overridden? = some d')
    (h : (scope.inlineType d).diagnostics = []) :
    ∃ kind g, d'.kind? = some kind ∧ (scope.inlineType d).value = g.type? ∧
      Quiet (d'.kindTyping (scope.inlineWithin d.depth) scope kind .inline) g := by
  obtain ⟨kind, g, hk, hg, hquiet⟩ := quiet_generate ho (diagnostics_bind_eq_nil.mp h).1
  refine ⟨kind, g, hk, ?_, hquiet⟩
  rw [inlineType, Reporting.value_bind, Reporting.value_pure, hg, Option.bind_some]

end Scope

end SchemaTypings
