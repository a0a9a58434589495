import SchemaTypings.Proofs.Declaration.Mentions
import SchemaTypings.Proofs.Typing.Quiet

/-!
# Names in generated types

A generated type mentions the name of a reference, the host class of an object, and what the types of
its parts mention.

* `mentions_signature`, `mentions_object`: signatures and objects mention what their parts mention.
* `mentions_kindTyping`: one case for each kind.
-/

namespace SchemaTypings

/-- The types directly in what a generator made. -/
def Generated.types : Generated → List TypeExpr
  | type t => [t]
  | declaration d => d.types
  | member m => m.types

/-- Something that was made mentions a name. -/
def Generated.Mentions (name : String) (g : Generated) : Prop := ∃ t ∈ g.types, t.Mentions name

/-- The type of one of these descriptors mentions a name. -/
def InlineTyping.Mentions (inline : InlineTyping) (name : String) (among : Descriptor → Prop) :
    Prop :=
  ∃ e type, among e ∧ (inline e).value = some type ∧ type.Mentions name

theorem InlineTyping.Mentions.mono {inline : InlineTyping} {name : String}
    {among others : Descriptor → Prop} (h : inline.Mentions name among)
    (hsub : ∀ e, among e → others e) : inline.Mentions name others := by
  obtain ⟨e, type, he, hrest⟩ := h
  exact ⟨e, type, hsub e he, hrest⟩

variable {inline : InlineTyping} {scope : Scope} {name : String}

/-! ## Signatures -/

namespace Signature

theorem mentions_typeOr {fallback : TypeExpr} {d? : Option Descriptor}
    (h : (typeOr inline fallback d?).value.Mentions name) :
    fallback.Mentions name ∨ inline.Mentions name fun e => d? = some e := by
  rw [value_typeOr] at h
  cases d? with
  | none => exact .inl h
  | some e =>
    rw [Option.bind_some] at h
    cases hv : (inline e).value with
    | none =>
      rw [hv] at h
      exact .inl h
    | some type =>
      rw [hv] at h
      exact .inr ⟨e, type, rfl, hv, h⟩

theorem mentions_handedOver {ps : List Descriptor} {handling : CallbackHandling}
    (h : (handedOver inline ps handling).Mentions name) :
    inline.Mentions name fun e => consumed? handling ps = some e := by
  rcases mentions_typeOr h with hvoid | hresult
  · exact absurd hvoid (TypeExpr.not_mentions_keyword _)
  · exact hresult

theorem mentions_returnType {d : Descriptor} {ps : List Descriptor} {handling : CallbackHandling}
    (h : (returnType inline d ps handling).value.Mentions name) :
    inline.Mentions name (Part inline d ps handling) := by
  have hown : (handedOver inline ps handling).Mentions name →
      inline.Mentions name (Part inline d ps handling) := fun hm =>
    (mentions_handedOver hm).mono fun e => .result
  have htype : (declaredOr inline d (handedOver inline ps handling)).value.Mentions name →
      inline.Mentions name (Part inline d ps handling) := by
    intro hm
    unfold declaredOr at hm
    split at hm
    next hv =>
      rcases mentions_typeOr hm with hm | hm
      · exact hown hm
      · exact hm.mono fun e he => .returned he hv
    · exact hown hm
  rw [returnType, Reporting.value_bind, Reporting.value_bind, Reporting.value_pure] at h
  split at h
  · obtain ⟨t, ht, hm⟩ := TypeExpr.mentions_generic h
    rw [List.mem_singleton.mp ht] at hm
    exact htype hm
  · exact htype h

theorem mentions_params {ps : List Descriptor} {t : TypeExpr}
    (ht : t ∈ (params inline ps).value.map (·.type)) (h : t.Mentions name) :
    inline.Mentions name fun e => e ∈ ps := by
  rw [types_params] at ht
  obtain ⟨e, he, rfl⟩ := List.mem_map.mp ht
  cases hv : (inline e).value with
  | none =>
    rw [hv] at h
    exact absurd h TypeExpr.not_mentions_any
  | some type =>
    rw [hv] at h
    exact ⟨e, type, he, hv, h⟩

theorem types_place (d : Descriptor) (shown : List Descriptor) (params : List (Param TypeExpr))
    (returns : TypeExpr) (slot : Slot) {t : TypeExpr}
    (h : t ∈ (place d shown params returns slot).types) (hm : t.Mentions name) :
    (∃ u ∈ params.map (·.type), u.Mentions name) ∨ returns.Mentions name := by
  have hparts : ∀ {u : TypeExpr}, u ∈ params.map (·.type) ++ [returns] → u.Mentions name →
      (∃ u ∈ params.map (·.type), u.Mentions name) ∨ returns.Mentions name := by
    intro u hu hmu
    rcases List.mem_append.mp hu with hu | hu
    · exact .inl ⟨u, hu, hmu⟩
    · rw [List.mem_singleton.mp hu] at hmu
      exact .inr hmu
  cases slot with
  | inline =>
    rw [List.mem_singleton.mp h] at hm
    obtain ⟨u, hu, hmu⟩ := hm.exists_part nofun
    exact hparts hu hmu
  | declared => exact hparts h hm
  | member => exact hparts h hm

/-- A signature mentions what its parts mention. -/
theorem mentions_typing {d : Descriptor} {ps : List Descriptor} {handling : CallbackHandling}
    {context : Context} {g : Generated}
    (h : (typing inline d ps handling context).run.value = .ok g) (hm : g.Mentions name) :
    inline.Mentions name (Part inline d ps handling) := by
  obtain ⟨slot, -, h⟩ := Reporting.run_bind_eq_ok.mp h
  obtain ⟨returns, hreturns, h⟩ := Reporting.run_bind_eq_ok.mp h
  obtain ⟨params, hparams, h⟩ := Reporting.run_bind_eq_ok.mp h
  cases h
  rw [Reporting.run_lift_eq_ok] at hreturns hparams
  obtain ⟨t, ht, hm⟩ := hm
  rcases types_place _ _ _ _ _ ht hm with ⟨u, hu, hmu⟩ | hreturned
  · rw [← hparams] at hu
    exact (mentions_params hu hmu).mono fun e => .param
  · rw [← hreturns] at hreturned
    exact mentions_returnType hreturned

end Signature

/-! ## Objects -/

namespace ObjectTyping

theorem mentions_methodSignature {g : Descriptor} {ps : List Descriptor} {m : Member TypeExpr}
    (h : (methodSignature inline scope g ps).value = some m) {t : TypeExpr} (ht : t ∈ m.types)
    (hm : t.Mentions name) : inline.Mentions name (Signature.Part inline g ps .consume) := by
  rw [methodSignature, Reporting.value_bind] at h
  cases hv : (Signature.typing inline g ps .consume .interface).run.value with
  | error cause =>
    rw [hv] at h
    cases h
  | ok generated =>
    rw [hv] at h
    cases generated with
    | member made =>
      cases h
      exact Signature.mentions_typing hv ⟨t, ht, hm⟩
    | type => cases h
    | declaration => cases h

theorem mentions_methodMembers {d f : Descriptor} (hf : f ∈ d.functions.getD [])
    {m : Member TypeExpr} (h : m ∈ (methodMembers inline scope d f).value) {t : TypeExpr}
    (ht : t ∈ m.types) (hm : t.Mentions name) : inline.Mentions name (Part inline d) := by
  rw [value_methodMembers] at h
  split at h
  · exact absurd h List.not_mem_nil
  next hs =>
    unfold expandMethod at h
    cases hg : f.overridden? with
    | none =>
      rw [hg] at h
      exact absurd h List.not_mem_nil
    | some g =>
      rw [hg] at h
      dsimp only at h
      rw [Reporting.value_collect] at h
      obtain ⟨ps, hps, hmember⟩ := List.mem_filterMap.mp h
      exact (mentions_methodSignature hmember ht hm).mono fun e he =>
        .method hf (by simpa using hs) hg hps he

theorem mentions_indexMember {types : List TypeExpr} {m : Member TypeExpr}
    (h : m ∈ indexMember types) {t : TypeExpr} (ht : t ∈ m.types) (hm : t.Mentions name) :
    ∃ u ∈ types, u.Mentions name := by
  unfold indexMember at h
  split at h
  · exact absurd h List.not_mem_nil
  next type =>
    rw [List.mem_singleton.mp h] at ht
    rw [List.mem_singleton.mp ht] at hm
    exact ⟨type, List.mem_singleton_self type, hm⟩
  next =>
    rw [List.mem_singleton.mp h] at ht
    rw [List.mem_singleton.mp ht] at hm
    exact hm.exists_part nofun

theorem mentions_patternMembers {patterns : List (String × TypeExpr × DocComment)}
    {m : Member TypeExpr} (h : m ∈ patternMembers patterns) {t : TypeExpr} (ht : t ∈ m.types)
    (hm : t.Mentions name) : ∃ entry ∈ patterns, entry.2.1.Mentions name := by
  unfold patternMembers at h
  rw [List.partition_eq_filter_filter] at h
  rcases List.mem_append.mp h with h | h
  · obtain ⟨entry, he, rfl⟩ := List.mem_map.mp h
    rw [List.mem_singleton.mp ht] at hm
    exact ⟨entry, (List.mem_filter.mp he).1, hm⟩
  · obtain ⟨u, hu, hmu⟩ := mentions_indexMember h ht hm
    obtain ⟨entry, he, rfl⟩ := List.mem_map.mp hu
    exact ⟨entry, (List.mem_filter.mp he).1, hmu⟩

theorem mentions_members {d : Descriptor} {m : Member TypeExpr}
    (h : m ∈ (members inline scope d).value) {t : TypeExpr} (ht : t ∈ m.types)
    (hm : t.Mentions name) : inline.Mentions name (Part inline d) := by
  rw [value_members, List.mem_append, List.mem_append] at h
  rcases h with (h | h) | h
  · obtain ⟨⟨key, e⟩, he, hmember⟩ := List.mem_filterMap.mp h
    rw [value_propertyMember, Option.map_eq_some_iff] at hmember
    obtain ⟨type, htype, rfl⟩ := hmember
    rw [List.mem_singleton.mp ht] at hm
    exact ⟨e, type, .property he, htype, hm⟩
  · obtain ⟨f, hf, h⟩ := List.mem_flatMap.mp h
    exact mentions_methodMembers hf h ht hm
  · obtain ⟨entry, hentry, hmentry⟩ := mentions_patternMembers h ht hm
    obtain ⟨⟨key, e⟩, he, hpattern⟩ := List.mem_filterMap.mp hentry
    rw [value_patternType, Option.map_eq_some_iff] at hpattern
    obtain ⟨type, htype, rfl⟩ := hpattern
    exact ⟨e, type, .pattern he, htype, hmentry⟩

theorem mentions_additionalType {d : Descriptor} {t : TypeExpr}
    (h : (additionalType inline d).value = some t) (hm : t.Mentions name) :
    inline.Mentions name (Part inline d) := by
  unfold additionalType at h
  split at h
  · cases h
  · cases h
  · cases h
    exact absurd (TypeExpr.mentions_stringIndex hm) TypeExpr.not_mentions_any
  next e he =>
    rw [Reporting.value_bind] at h
    cases hv : (inline e).value with
    | none =>
      rw [hv] at h
      cases h
      exact absurd hm TypeExpr.not_mentions_any
    | some type =>
      rw [hv] at h
      cases h
      exact ⟨e, type, .additional he, hv, TypeExpr.mentions_stringIndex hm⟩

theorem mentions_combine {parts : List TypeExpr} (h : (combine parts).Mentions name) :
    ∃ part ∈ parts, part.Mentions name := by
  unfold combine at h
  split at h
  · exact absurd (TypeExpr.mentions_stringIndex h) TypeExpr.not_mentions_any
  next part => exact ⟨part, List.mem_singleton_self part, h⟩
  next => exact h.exists_part nofun

theorem mentions_objectType {d : Descriptor} {members : List (Member TypeExpr)}
    {additional : Option TypeExpr} (h : (objectType d members additional).Mentions name) :
    d.isInstanceOf = some name ∨ (∃ m ∈ members, ∃ t ∈ m.types, t.Mentions name) ∨
      ∃ t, additional = some t ∧ t.Mentions name := by
  obtain ⟨part, hpart, hm⟩ := mentions_combine h
  rw [List.mem_append, List.mem_append, Option.mem_toList, Option.mem_toList] at hpart
  rcases hpart with (hhost | hown) | hadditional
  · obtain ⟨host, hd, rfl⟩ := Option.map_eq_some_iff.mp hhost
    rw [TypeExpr.mentions_reference hm]
    exact .inl hd
  · split at hown
    · exact absurd hown List.not_mem_nil
    · rw [List.mem_singleton.mp hown] at hm
      exact .inr (.inl (TypeExpr.mentions_object hm))
  · exact .inr (.inr ⟨part, hadditional, hm⟩)

theorem mentions_namedBody {d e : Descriptor} {id : String} {members : List (Member TypeExpr)}
    {additional : Option TypeExpr}
    (h : (d.declared id (namedBody e members additional)).Mentions name) :
    e.isInstanceOf = some name ∨ (∃ m ∈ members, ∃ t ∈ m.types, t.Mentions name) ∨
      ∃ t, additional = some t ∧ t.Mentions name := by
  obtain ⟨t, ht, hm⟩ := h
  unfold namedBody at ht
  by_cases hplain : (e.isInstanceOf.isNone && additional.isNone) = true
  · rw [if_pos hplain] at ht
    obtain ⟨m, hmem, ht⟩ := List.mem_flatMap.mp ht
    exact .inr (.inl ⟨m, hmem, t, ht, hm⟩)
  · rw [if_neg hplain] at ht
    rw [List.mem_singleton.mp ht] at hm
    exact mentions_objectType hm

/-- An object mentions its host class and what its parts mention. -/
theorem mentions_typing {d : Descriptor} {context : Context} {g : Generated}
    (h : (typing inline d scope context).run.value = .ok g) (hm : g.Mentions name) :
    d.isInstanceOf = some name ∨ inline.Mentions name (Part inline d) := by
  obtain ⟨id, -, h⟩ := Reporting.run_bind_eq_ok.mp h
  obtain ⟨made, hmade, h⟩ := Reporting.run_bind_eq_ok.mp h
  obtain ⟨additional, hadditional, h⟩ := Reporting.run_bind_eq_ok.mp h
  rw [Reporting.run_lift_eq_ok] at hmade hadditional
  have hparts : d.isInstanceOf = some name ∨ (∃ m ∈ made, ∃ t ∈ m.types, t.Mentions name) ∨
      ∃ t, additional = some t ∧ t.Mentions name := by
    cases id with
    | none =>
      cases h
      obtain ⟨t, ht, hm⟩ := hm
      rw [List.mem_singleton.mp ht] at hm
      exact mentions_objectType hm
    | some id =>
      cases h
      exact mentions_namedBody hm
  rcases hparts with hhost | ⟨m, hmem, t, ht, hm⟩ | ⟨t, ht, hm⟩
  · exact .inl hhost
  · rw [← hmade] at hmem
    exact .inr (mentions_members hmem ht hm)
  · rw [ht] at hadditional
    exact .inr (mentions_additionalType hadditional hm)

end ObjectTyping

/-! ## Descriptors of every kind -/

namespace Descriptor

/-- Asks for another type by name. -/
def RefersTo (d : Descriptor) (target : String) : Prop := d.kind? = some (.reference target)

/-- Is an instance of a class of the host. -/
def IsHosted (d : Descriptor) (className : String) : Prop :=
  d.kind? = some .object ∧ d.isInstanceOf = some className

variable {d : Descriptor} {context : Context} {g : Generated}

theorem mentions_typeOrAlias {type : TypeExpr} {kind : String}
    (h : (d.typeOrAlias type kind context).run.value = .ok g) (hm : g.Mentions name) :
    type.Mentions name := by
  obtain ⟨id, -, h⟩ := Reporting.run_bind_eq_ok.mp h
  cases id with
  | none =>
    cases h
    obtain ⟨t, ht, hm⟩ := hm
    rwa [List.mem_singleton.mp ht] at hm
  | some id =>
    cases h
    obtain ⟨t, ht, hm⟩ := hm
    rwa [List.mem_singleton.mp ht] at hm

theorem mentions_place {type : TypeExpr} {slot : Slot} (hm : (d.place type slot).Mentions name) :
    type.Mentions name := by
  obtain ⟨t, ht, hm⟩ := hm
  cases slot with
  | inline => rwa [List.mem_singleton.mp ht] at hm
  | declared => rwa [List.mem_singleton.mp ht] at hm
  | member => rwa [List.mem_singleton.mp ht] at hm

theorem not_mentions_literalType {value : Json} {type : TypeExpr}
    (h : value.literalType? = some type) : ¬type.Mentions name := by
  unfold Json.literalType? at h
  split at h
  · cases h
    exact TypeExpr.not_mentions_literal _
  · cases h
    exact TypeExpr.not_mentions_literal _
  · split at h <;> cases h <;> exact TypeExpr.not_mentions_literal _
  · cases h
    exact TypeExpr.not_mentions_literal _
  all_goals cases h

theorem not_mentions_enumChoice {choice : EnumChoice} {type : TypeExpr}
    (h : choice.type? = some type) : ¬type.Mentions name := by
  unfold EnumChoice.type? at h
  split at h
  · exact not_mentions_literalType h
  · cases h
    exact TypeExpr.not_mentions_literal _
  · cases h
    exact TypeExpr.not_mentions_literal _
  · cases h
    intro hm
    obtain ⟨u, hu, hm⟩ := hm.exists_part nofun
    rw [List.mem_singleton.mp hu] at hm
    exact TypeExpr.not_mentions_literal _ hm

theorem not_mentions_enumUnion (choices : List EnumChoice) :
    ¬(EnumChoice.union choices).Mentions name := by
  unfold EnumChoice.union
  split
  · exact TypeExpr.not_mentions_keyword _
  · intro hm
    obtain ⟨u, hu, hm⟩ := hm.exists_part nofun
    obtain ⟨choice, -, hc⟩ := List.mem_filterMap.mp hu
    exact not_mentions_enumChoice hc hm

theorem mentions_arrayTyping {items : Descriptor}
    (h : (d.arrayTyping inline items context).run.value = .ok g) (hm : g.Mentions name) :
    inline.Mentions name fun e => e = items := by
  obtain ⟨item, hitem, h⟩ := Reporting.run_bind_eq_ok.mp h
  rw [Reporting.run_lift_eq_ok] at hitem
  obtain ⟨u, hu, hm⟩ := (mentions_typeOrAlias h hm).exists_part nofun
  rw [List.mem_singleton.mp hu] at hm
  cases item with
  | none => exact absurd hm TypeExpr.not_mentions_any
  | some type => exact ⟨items, type, rfl, hitem, hm⟩

theorem mentions_unionTyping {choices : List Descriptor}
    (h : (d.unionTyping inline choices context).run.value = .ok g) (hm : g.Mentions name) :
    inline.Mentions name fun e => e ∈ choices := by
  obtain ⟨id, -, h⟩ := Reporting.run_bind_eq_ok.mp h
  obtain ⟨types, htypes, h⟩ := Reporting.run_bind_eq_ok.mp h
  rw [Reporting.run_lift_eq_ok, Reporting.value_collect] at htypes
  have hunion : (TypeExpr.union types).Mentions name := by
    dsimp only at h
    split at h
    · cases h
    · obtain ⟨t, ht, hm⟩ := hm
      cases id with
      | none =>
        cases h
        rwa [List.mem_singleton.mp ht] at hm
      | some id =>
        cases h
        rwa [List.mem_singleton.mp ht] at hm
  obtain ⟨u, hu, hm⟩ := hunion.exists_part nofun
  change u ∈ types at hu
  rw [← htypes] at hu
  obtain ⟨e, he, hv⟩ := List.mem_filterMap.mp hu
  exact ⟨e, u, he, hv, hm⟩

/-- What is made of a descriptor mentions its own name or a name that its parts mention. -/
theorem mentions_kindTyping {kind : Kind} (hk : d.kind? = some kind)
    (h : Reporting.Quiet (d.kindTyping inline scope kind context) g) (hm : g.Mentions name) :
    d.RefersTo name ∨ d.IsHosted name ∨ inline.Mentions name (d.Part inline) := by
  cases kind with
  | null =>
    have hvalue := h.1
    cases context with
    | inline =>
      cases hvalue
      obtain ⟨t, ht, hm⟩ := hm
      rw [List.mem_singleton.mp ht] at hm
      exact absurd hm (TypeExpr.not_mentions_keyword _)
    | «namespace» => cases hvalue
    | interface => cases hvalue
  | any => exact absurd (mentions_typeOrAlias h.1 hm) TypeExpr.not_mentions_any
  | boolean =>
    exact absurd (mentions_typeOrAlias h.1 hm) (TypeExpr.not_mentions_keyword _)
  | integer =>
    exact absurd (mentions_typeOrAlias h.1 hm) (TypeExpr.not_mentions_keyword _)
  | number =>
    exact absurd (mentions_typeOrAlias h.1 hm) (TypeExpr.not_mentions_keyword _)
  | string =>
    exact absurd (mentions_typeOrAlias h.1 hm) (TypeExpr.not_mentions_keyword _)
  | enumString choices =>
    exact absurd (mentions_typeOrAlias h.1 hm) (not_mentions_enumUnion choices)
  | function =>
    exact .inr (.inr ((Signature.mentions_typing h.1 hm).mono fun e => .signature hk))
  | array items =>
    exact .inr (.inr ((mentions_arrayTyping h.1 hm).mono fun e he => .item (he ▸ hk)))
  | union choices =>
    exact .inr (.inr ((mentions_unionTyping h.1 hm).mono fun e => .choice hk))
  | reference target =>
    obtain ⟨-, slot, rfl⟩ := Scope.quiet_referenceTyping h
    rw [← TypeExpr.mentions_reference (mentions_place hm)] at hk
    exact .inl hk
  | object =>
    rcases ObjectTyping.mentions_typing h.1 hm with hhost | hparts
    · exact .inr (.inl ⟨hk, hhost⟩)
    · exact .inr (.inr (hparts.mono fun e => .member hk))
  | staticValue value =>
    have hvalue := h.1
    change (d.staticValueTyping value context).run.value = .ok g at hvalue
    unfold staticValueTyping at hvalue
    split at hvalue
    · cases hvalue
    next type htype =>
      obtain ⟨slot, -, hvalue⟩ := Reporting.run_bind_eq_ok.mp hvalue
      cases hvalue
      exact absurd (mentions_place hm) (not_mentions_literalType htype)

end Descriptor

end SchemaTypings
