import SchemaTypings.Proofs.Typing.Mentions

/-!
# The descriptors behind a type

Generating a type visits the descriptor itself, as the overrides leave it, and whatever its parts visit.
When nothing is reported, every reference that was visited has been found, and every name in the result
comes from a descriptor that was visited.

* `Visits.resolves`: visited references are found.
* `mentions_inlineWithin`: names come from visited descriptors.
-/

namespace SchemaTypings.Scope

open Reporting (Quiet diagnostics_bind_eq_nil)

variable {scope : Scope} {name : String}

/-- What is generated on the way to the type of a descriptor, going down at most the given number of
levels. -/
inductive Visits (scope : Scope) : Nat → Descriptor → Descriptor → Prop
  | self {levels : Nat} {d d' : Descriptor} (ho : d.overridden? = some d') :
      Visits scope (levels + 1) d d'
  | part {levels : Nat} {d d' e x : Descriptor} (ho : d.overridden? = some d')
      (he : d'.Part (scope.inlineWithin levels) e) (hx : Visits scope levels e x) :
      Visits scope (levels + 1) d x

/-- All that is generated for the sake of a descriptor. -/
def Reaches (scope : Scope) (d x : Descriptor) : Prop := scope.Visits (d.depth + 1) d x

theorem quiet_inlineWithin {levels : Nat} {d : Descriptor}
    (h : (scope.inlineWithin (levels + 1) d).diagnostics = []) :
    ∃ generated, Quiet (scope.typing (scope.inlineWithin levels) d .inline) generated ∧
      (scope.inlineWithin (levels + 1) d).value = generated.bind Generated.type? :=
  ⟨_, quiet_contain (diagnostics_bind_eq_nil.mp h).1, rfl⟩

/-! ## References -/

/-- A visited reference is found. The induction is on the way to it: it is the descriptor itself, or it
is visited for one of the parts, which report nothing either. -/
theorem Visits.resolves {levels : Nat} {d x : Descriptor} (hv : scope.Visits levels d x)
    {target : String} (hx : x.RefersTo target) :
    ∀ {below : Nat} {context : Context} {generated : Option Generated}, levels = below + 1 →
      Quiet (scope.typing (scope.inlineWithin below) d context) generated →
        scope.Resolves target := by
  induction hv with
  | self ho =>
    intro below context generated hlevels h
    obtain ⟨kind, g, hk, -, h⟩ := quiet_typing ho h
    cases hk.symm.trans hx
    exact (quiet_referenceTyping h).1
  | @part levels d d' e x ho he hv ih =>
    intro below context generated hlevels h
    obtain rfl : levels = below := Nat.succ.inj hlevels
    obtain ⟨kind, g, hk, -, h⟩ := quiet_typing ho h
    have hquiet := quiet_kindTyping hk h e he
    cases levels with
    | zero => cases hv
    | succ levels =>
      obtain ⟨part, hpart, -⟩ := quiet_inlineWithin hquiet
      exact ih hx rfl hpart

/-! ## Names -/

/-- Some of these descriptors has this name in it. -/
def NamedBy (name : String) (among : Descriptor → Prop) : Prop :=
  ∃ x, among x ∧ (x.RefersTo name ∨ x.IsHosted name)

theorem mentions_typing {levels : Nat} {d : Descriptor} {context : Context}
    {generated : Option Generated} {g : Generated}
    (hbelow : ∀ (e : Descriptor) (type : TypeExpr), (scope.inlineWithin levels e).diagnostics = [] →
      (scope.inlineWithin levels e).value = some type → type.Mentions name →
        NamedBy name (scope.Visits levels e))
    (h : Quiet (scope.typing (scope.inlineWithin levels) d context) generated)
    (hg : generated = some g) (hm : g.Mentions name) : NamedBy name (scope.Visits (levels + 1) d) := by
  cases ho : d.overridden? with
  | none =>
    have hvalue := h.1
    rw [value_typing_skipped ho, hg] at hvalue
    cases hvalue
  | some d' =>
    obtain ⟨kind, g', hk, hg', h⟩ := quiet_typing ho h
    cases hg.symm.trans hg'
    rcases Descriptor.mentions_kindTyping hk h hm with hr | hhost | ⟨e, type, he, htype, hm⟩
    · exact ⟨d', .self ho, .inl hr⟩
    · exact ⟨d', .self ho, .inr hhost⟩
    · obtain ⟨x, hx, hnamed⟩ := hbelow e type (quiet_kindTyping hk h e he) htype hm
      exact ⟨x, .part ho he hx, hnamed⟩

theorem mentions_inlineWithin {levels : Nat} {d : Descriptor} {type : TypeExpr}
    (h : (scope.inlineWithin levels d).diagnostics = [])
    (hv : (scope.inlineWithin levels d).value = some type) (hm : type.Mentions name) :
    NamedBy name (scope.Visits levels d) := by
  induction levels generalizing d type with
  | zero => cases hv
  | succ levels ih =>
    obtain ⟨generated, hquiet, hvalue⟩ := quiet_inlineWithin h
    obtain ⟨g, hg, htype⟩ := Option.bind_eq_some_iff.mp (hvalue.symm.trans hv)
    cases g with
    | type t =>
      cases htype
      exact mentions_typing (fun e type h hv hm => ih h hv hm) hquiet hg
        ⟨_, List.mem_singleton_self _, hm⟩
    | declaration => cases htype
    | member => cases htype

/-! ## Types and declarations -/

theorem resolves_of_inlineType {d x : Descriptor} (h : (scope.inlineType d).diagnostics = [])
    (hx : scope.Reaches d x) {target : String} (hr : x.RefersTo target) : scope.Resolves target := by
  obtain ⟨generated, hquiet, -⟩ := quiet_inlineWithin h
  exact hx.resolves hr rfl hquiet

theorem mentions_inlineType {d : Descriptor} {type : TypeExpr}
    (h : (scope.inlineType d).diagnostics = []) (hv : (scope.inlineType d).value = some type)
    (hm : type.Mentions name) : NamedBy name (scope.Reaches d) :=
  mentions_inlineWithin h hv hm

theorem resolves_of_declaration {d x : Descriptor} {context : Context}
    (h : (scope.declaration d context).diagnostics = []) (hx : scope.Reaches d x)
    {target : String} (hr : x.RefersTo target) : scope.Resolves target :=
  hx.resolves hr rfl (quiet_contain (diagnostics_bind_eq_nil.mp h).1)

theorem mentions_declaration {d : Descriptor} {context : Context} {decl : Declaration}
    (h : (scope.declaration d context).diagnostics = [])
    (hv : (scope.declaration d context).value = some decl) (hm : decl.Mentions name) :
    NamedBy name (scope.Reaches d) := by
  have hquiet := quiet_contain (diagnostics_bind_eq_nil.mp h).1
  rw [declaration, Reporting.value_bind, Reporting.value_pure] at hv
  obtain ⟨g, hg, hdecl⟩ := Option.bind_eq_some_iff.mp hv
  cases g with
  | declaration d' =>
    cases hdecl
    exact mentions_typing (fun e type h hv hm => mentions_inlineWithin h hv hm) hquiet hg hm
  | type => cases hdecl
  | member => cases hdecl

end SchemaTypings.Scope
