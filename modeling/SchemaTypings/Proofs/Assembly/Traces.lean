import SchemaTypings.Proofs.Assembly.Entries
import SchemaTypings.Proofs.Functions.Visits
import SchemaTypings.Proofs.Typing.Event

/-!
# The descriptors behind an entry

Every entry of a namespace generates descriptors, each in the scope in which it stands: the parts of a
function see the types made for its parameters, and all others see what the entry sees.

* `Entry.Visits`: the descriptors that an entry generates, with their scopes.
* `Entry.traced`: when an entry reports nothing, the references that it generates are found, and every
  name in its declarations comes from a descriptor that it generates.
-/

namespace SchemaTypings

open Reporting (diagnostics_bind_eq_nil)
open FunctionTyping (Hoists asNamedType prepare)

/-- The descriptors that an entry generates, with the scopes in which they are generated. -/
inductive Entry.Visits (scope : Scope) : Entry → Scope → Descriptor → Prop
  | type {d x : Descriptor} (hx : scope.Reaches d x) : Visits scope (.type d) scope x
  | parameter {d f p x : Descriptor} {functionName name : String} (hf : d.overridden? = some f)
      (hn : f.identifier? = some functionName)
      (hinner : (Variants.innerPositions f.params).isEmpty = false)
      (hp : Hoists functionName scope [] f.params p name)
      (hx : scope.Reaches (asNamedType p name) x) : Visits scope (.function d) scope x
  | variant {d f e x : Descriptor} {functionName : String} {ps : List Descriptor}
      (hf : d.overridden? = some f) (hn : f.identifier? = some functionName)
      (hps : ps ∈ Variants.all (prepare f functionName scope).value.1)
      (he : Signature.Part (scope.extend (prepare f functionName scope).value.2).inlineType f ps
        .consume e)
      (hx : (scope.extend (prepare f functionName scope).value.2).Reaches e x) :
      Visits scope (.function d) (scope.extend (prepare f functionName scope).value.2) x
  | event {d event e x : Descriptor} (hd : d.overridden? = some event)
      (he : EventTyping.Part scope.inlineType event e) (hx : scope.Reaches e x) :
      Visits scope (.event d) scope x
  | property {key : String} {d x : Descriptor} (hx : scope.Reaches d x) :
      Visits scope (.property key d) scope x

/-- All references that an entry generates are found, and the names in its declarations come from
descriptors that it generates. -/
structure Entry.Traced (scope : Scope) (entry : Entry) : Prop where
  resolved : ∀ {place : Scope} {x : Descriptor} {target : String},
    entry.Visits scope place x → x.RefersTo target → place.Resolves target
  named : ∀ {decl : Declaration} {name : String}, decl ∈ (entry.declarations scope).value →
    decl.Mentions name →
      ∃ place x, entry.Visits scope place x ∧ (x.RefersTo name ∨ x.IsHosted name)

variable {scope : Scope} {d : Descriptor}

/-! ## Types -/

theorem mentions_alias {d : Descriptor} {name id : String} {type : TypeExpr}
    (h : (d.declared id (.alias type)).Mentions name) : type.Mentions name := by
  obtain ⟨t, ht, hm⟩ := h
  rwa [List.mem_singleton.mp ht] at hm

theorem mentions_const {d : Descriptor} {name id : String} {type : TypeExpr}
    (h : (d.declared id (.const type)).Mentions name) : type.Mentions name := by
  obtain ⟨t, ht, hm⟩ := h
  rwa [List.mem_singleton.mp ht] at hm

/-- What a type entry that reports nothing comes from: a type in place, or a declaration. -/
theorem quiet_typeEntry_cases (h : (EntryTyping.typeEntry d scope).diagnostics = []) :
    ((scope.inlineType d).diagnostics = [] ∧
        ∀ decl, (EntryTyping.typeEntry d scope).value = some decl → ∃ id type,
          (scope.inlineType d).value = some type ∧ decl = d.declared id (.alias type)) ∨
      ∃ context, (scope.declaration d context).diagnostics = [] ∧
        EntryTyping.typeEntry d scope = scope.declaration d context := by
  unfold EntryTyping.typeEntry at h ⊢
  split at h
  · cases h
  next hk =>
    obtain ⟨hquiet, hrest⟩ := diagnostics_bind_eq_nil.mp h
    refine .inl ⟨hquiet, fun decl hdecl => ?_⟩
    rw [Reporting.value_bind] at hdecl
    cases hv : (scope.inlineType d).value with
    | none =>
      rw [hv] at hdecl
      cases hdecl
    | some type =>
      rw [hv] at hdecl
      cases hid : d.id with
      | none =>
        rw [hid] at hdecl
        cases hdecl
      | some id =>
        rw [hid] at hdecl
        cases hdecl
        exact ⟨id, type, rfl, rfl⟩
  · exact .inr ⟨.namespace, h, rfl⟩
  · exact .inr ⟨.interface, h, rfl⟩

theorem traced_type (h : ((Entry.type d).declarations scope).diagnostics = []) :
    (Entry.type d).Traced scope := by
  have hquiet := (diagnostics_bind_eq_nil.mp h).1
  constructor
  · intro place x target hv hr
    cases hv with
    | type hx =>
      rcases quiet_typeEntry_cases hquiet with ⟨hq, -⟩ | ⟨context, hq, -⟩
      · exact Scope.resolves_of_inlineType hq hx hr
      · exact Scope.resolves_of_declaration hq hx hr
  · intro decl name hdecl hm
    rw [Entry.mem_declarations_type] at hdecl
    have hnamed : Scope.NamedBy name (scope.Reaches d) := by
      rcases quiet_typeEntry_cases hquiet with ⟨hq, hvalue⟩ | ⟨context, hq, he⟩
      · obtain ⟨id, type, hv, rfl⟩ := hvalue decl hdecl
        exact Scope.mentions_inlineType hq hv (mentions_alias hm)
      · rw [he] at hdecl
        exact Scope.mentions_declaration hq hdecl hm
    obtain ⟨x, hx, hn⟩ := hnamed
    exact ⟨scope, x, .type hx, hn⟩

/-! ## Functions -/

theorem traced_function (h : ((Entry.function d).declarations scope).diagnostics = []) :
    (Entry.function d).Traced scope := by
  rw [Entry.declarations] at h
  constructor
  · intro place x target hv hr
    cases hv with
    | parameter hf hn hinner hp hx =>
      rw [FunctionTyping.expand_eq_expandNamed scope hf hn] at h
      have hprepare := (FunctionTyping.quiet_expandNamed h).1
      rw [prepare, hinner, if_neg Bool.false_ne_true] at hprepare
      exact Scope.resolves_of_declaration (FunctionTyping.quiet_hoistParams hprepare hp) hx hr
    | variant hf hn hps he hx =>
      rw [FunctionTyping.expand_eq_expandNamed scope hf hn] at h
      have hoverload := (FunctionTyping.quiet_expandNamed h).2 _ hps
      obtain ⟨g, hg, -⟩ := FunctionTyping.quiet_overload hn hoverload
      exact Scope.resolves_of_inlineType (Scope.quiet_signature hg _ he) hx hr
  · intro decl name hdecl hm
    rw [Entry.declarations] at hdecl
    obtain ⟨f, functionName, hf, hn, hdecl⟩ := FunctionTyping.mem_expand_cases hdecl
    rw [FunctionTyping.expand_eq_expandNamed scope hf hn] at h
    obtain ⟨hprepare, hoverloads⟩ := FunctionTyping.quiet_expandNamed h
    rw [List.mem_append] at hdecl
    rcases hdecl with hmade | hsignature | hexport
    · unfold prepare at hmade hprepare
      split at hmade
      · exact absurd hmade List.not_mem_nil
      next hinner =>
        rw [if_neg hinner] at hprepare
        obtain ⟨p, typeName, hp, hv⟩ :=
          (FunctionTyping.mem_made_cases hmade).resolve_left List.not_mem_nil
        have hquiet := FunctionTyping.quiet_hoistParams hprepare hp
        obtain ⟨x, hx, hnamed⟩ := Scope.mentions_declaration hquiet hv hm
        exact ⟨scope, x, .parameter hf hn (by simpa using hinner) hp hx, hnamed⟩
    · obtain ⟨ps, hps, rfl⟩ := List.mem_map.mp hsignature
      obtain ⟨g, hg, htypes⟩ := FunctionTyping.quiet_overload hn (hoverloads ps hps)
      rw [Declaration.Mentions, htypes] at hm
      obtain ⟨e, type, he, hv, hm⟩ := Signature.mentions_typing hg.1 hm
      obtain ⟨x, hx, hnamed⟩ := Scope.mentions_inlineType (Scope.quiet_signature hg e he) hv hm
      exact ⟨_, x, .variant hf hn hps he hx, hnamed⟩
    · obtain ⟨-, rfl⟩ := FunctionTyping.mem_exportOf.mp hexport
      obtain ⟨t, ht, -⟩ := hm
      exact absurd ht List.not_mem_nil

/-! ## Events -/

theorem quiet_expand_event {event : Descriptor} (hd : d.overridden? = some event)
    (h : (EventTyping.expand d scope).diagnostics = []) :
    ∃ decl, Reporting.Quiet (EventTyping.typing event scope) decl ∧
      (EventTyping.expand d scope).value = some decl := by
  unfold EventTyping.expand at h ⊢
  rw [hd] at h ⊢
  obtain ⟨hrun, hreport⟩ := diagnostics_bind_eq_nil.mp h
  dsimp only
  rw [Reporting.value_bind]
  cases hv : (EventTyping.typing event scope).run.value with
  | ok decl => exact ⟨decl, ⟨hv, hrun⟩, rfl⟩
  | error cause =>
    rw [hv] at hreport
    cases hreport

theorem traced_event (h : ((Entry.event d).declarations scope).diagnostics = []) :
    (Entry.event d).Traced scope := by
  have hquiet := (diagnostics_bind_eq_nil.mp h).1
  have hentry : EntryTyping.eventEntry d scope = EventTyping.expand d scope := by
    unfold EntryTyping.eventEntry at hquiet ⊢
    split at hquiet
    · cases hquiet
    next hs => rw [if_neg hs]
  rw [hentry] at hquiet
  constructor
  · intro place x target hv hr
    cases hv with
    | event hd he hx =>
      obtain ⟨decl, hq, -⟩ := quiet_expand_event hd hquiet
      exact Scope.resolves_of_inlineType (EventTyping.quiet_parts hq _ he) hx hr
  · intro decl name hdecl hm
    rw [Entry.mem_declarations_event, hentry] at hdecl
    cases hd : d.overridden? with
    | none =>
      unfold EventTyping.expand at hdecl
      rw [hd] at hdecl
      cases hdecl
    | some event =>
      obtain ⟨decl', hq, hvalue⟩ := quiet_expand_event hd hquiet
      cases hvalue.symm.trans hdecl
      obtain ⟨e, type, he, hv, hm⟩ := EventTyping.mentions_typing hq hm
      obtain ⟨x, hx, hnamed⟩ := Scope.mentions_inlineType (EventTyping.quiet_parts hq e he) hv hm
      exact ⟨scope, x, .event hd he hx, hnamed⟩

/-! ## Properties -/

/-- Behind a constant value there is nothing else. -/
theorem kind?_of_reaches_static {x : Descriptor} {value : Json}
    (hk : d.kind? = some (.staticValue value)) (h : scope.Reaches d x) :
    x.kind? = some (.staticValue value) := by
  cases h with
  | self ho => exact (Descriptor.kind?_of_overridden ho).trans hk
  | part ho he =>
    rw [← Descriptor.kind?_of_overridden ho] at hk
    cases he with
    | item hi => cases hk.symm.trans hi
    | choice hc => cases hk.symm.trans hc
    | signature hs => cases hk.symm.trans hs
    | member ho => cases hk.symm.trans ho

theorem not_namedBy_static {value : Json} (hk : d.kind? = some (.staticValue value))
    (name : String) : ¬Scope.NamedBy name (scope.Reaches d) := by
  rintro ⟨x, hx, hr | hh⟩
  · cases (kind?_of_reaches_static hk hx).symm.trans hr
  · cases (kind?_of_reaches_static hk hx).symm.trans hh.1

/-- A property that reports nothing is a constant value, or has the type that it has in place. -/
theorem quiet_propertyEntry_cases {key : String}
    (h : (EntryTyping.propertyEntry key d scope).diagnostics = []) :
    (∃ value, d.kind? = some (.staticValue value) ∧
        EntryTyping.propertyEntry key d scope =
          scope.declaration { d with name := some key } .namespace) ∨
      ((scope.inlineType d).diagnostics = [] ∧ ∀ decl,
        (EntryTyping.propertyEntry key d scope).value = some decl → ∃ type,
          (scope.inlineType d).value = some type ∧ decl = d.declared key (.const type)) := by
  unfold EntryTyping.propertyEntry at h ⊢
  dsimp only at h ⊢
  split at h
  · cases h
  next hs =>
    rw [if_neg hs]
    split at h
    next value hk => exact .inl ⟨value, hk, rfl⟩
    next =>
      split at h
      next hlike =>
        refine .inr ⟨(diagnostics_bind_eq_nil.mp h).1, fun decl hdecl => ?_⟩
        rw [if_pos hlike, Reporting.value_bind, Reporting.value_pure] at hdecl
        obtain ⟨type, htype, he⟩ := Option.map_eq_some_iff.mp hdecl
        exact ⟨type, htype, he.symm⟩
      · cases h
    · cases h

theorem traced_property {key : String}
    (h : ((Entry.property key d).declarations scope).diagnostics = []) :
    (Entry.property key d).Traced scope := by
  have hquiet := (diagnostics_bind_eq_nil.mp h).1
  constructor
  · intro place x target hv hr
    cases hv with
    | property hx =>
      rcases quiet_propertyEntry_cases hquiet with ⟨value, hk, -⟩ | ⟨hq, -⟩
      · cases (kind?_of_reaches_static hk hx).symm.trans hr
      · exact Scope.resolves_of_inlineType hq hx hr
  · intro decl name hdecl hm
    rw [Entry.mem_declarations_property] at hdecl
    rcases quiet_propertyEntry_cases hquiet with ⟨value, hk, he⟩ | ⟨hq, hvalue⟩
    · rw [he] at hdecl hquiet
      have hstatic : { d with name := some key }.kind? = some (.staticValue value) := hk
      exact absurd (Scope.mentions_declaration hquiet hdecl hm) (not_namedBy_static hstatic name)
    · obtain ⟨type, hv, rfl⟩ := hvalue decl hdecl
      obtain ⟨x, hx, hnamed⟩ := Scope.mentions_inlineType hq hv (mentions_const hm)
      exact ⟨scope, x, .property hx, hnamed⟩

/-- **What an entry generates accounts for the names in its declarations**, when the entry reports
nothing. -/
theorem Entry.traced {entry : Entry} (h : (entry.declarations scope).diagnostics = []) :
    entry.Traced scope := by
  cases entry with
  | type d => exact traced_type h
  | function d => exact traced_function h
  | event d => exact traced_event h
  | property key d => exact traced_property h

end SchemaTypings
