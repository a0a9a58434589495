import SchemaTypings.Descriptor.Kind
import SchemaTypings.Descriptor.Override

/-!
# What overrides leave alone

A descriptor is skipped, kept, or loses the parameters of its response callbacks; nothing else about it
changes. An object is never changed at all.
-/

namespace SchemaTypings.Descriptor

/-- The value under a key of the JSON of a descriptor. -/
def written? (d : Descriptor) (key : String) : Option Json :=
  Fields.find? key (d.toJson.fields?.getD [])

theorem find?_field (key : Key) (value : Option Json) (other : String) :
    Fields.find? other (field key value) = if key.spelling = other then value else none := by
  cases value with
  | none => simp [field, Fields.find?]
  | some value => simp [field, Fields.find?]

theorem override?_cases (d : Descriptor) :
    d.override? = none ∨ d.override? = some .skip ∨
      (d.override? = some (.reshape reshapeResponders) ∧
        (d.written? "type" == some (.text "function")) = true) := by
  unfold override?
  by_cases hu : d.isUnsupported = true
  · rw [if_pos hu]
    exact .inr (.inl rfl)
  · rw [if_neg hu]
    by_cases hn : (d.id.isNone && d.name.isNone) = true
    · rw [if_pos hn]
      exact .inl rfl
    · rw [if_neg hn]
      cases h : overrideRules.find? (·.applies (d.toJson.fields?.getD [])) with
      | none =>
        left
        simp only [h, Option.map_none]
      | some rule =>
        right
        have hmem := List.mem_of_find?_eq_some h
        have happlies := List.find?_some h
        simp only [overrideRules, List.mem_cons, List.not_mem_nil, or_false] at hmem
        simp only [h, Option.map_some]
        rcases hmem with rfl | rfl | rfl
        · exact .inl rfl
        · exact .inl rfl
        · simp only [OverrideRule.applies, List.all_cons, Bool.and_eq_true] at happlies
          exact .inr ⟨rfl, happlies.2.1⟩

/-- What stands in place of a descriptor differs from it in the parameters at most. -/
theorem eq_of_overridden {d d' : Descriptor} (h : d.overridden? = some d') :
    d' = d ∨ d' = d.reshapeResponders := by
  unfold overridden? at h
  rcases d.override?_cases with hc | hc | ⟨hc, -⟩ <;> rw [hc] at h
  · exact .inl (Option.some.inj h).symm
  · cases h
  · exact .inr (Option.some.inj h).symm

theorem params_reshapeResponders (d : Descriptor) :
    d.reshapeResponders.params = d.params.map asResponder := by
  unfold params reshapeResponders
  cases d.parameters <;> rfl

theorem kind?_of_overridden {d d' : Descriptor} (h : d.overridden? = some d') :
    d'.kind? = d.kind? := by
  rcases eq_of_overridden h with rfl | rfl <;> rfl

theorem id_of_overridden {d d' : Descriptor} (h : d.overridden? = some d') : d'.id = d.id := by
  rcases eq_of_overridden h with rfl | rfl <;> rfl

theorem identifier?_of_overridden {d d' : Descriptor} (h : d.overridden? = some d') :
    d'.identifier? = d.identifier? := by
  rcases eq_of_overridden h with rfl | rfl <;> rfl

/-! ## Objects -/

theorem leadingKind?_ne_object (d : Descriptor) : d.leadingKind? ≠ some .object := by
  unfold leadingKind?
  intro h
  split at h
  · cases h
  · cases h
  · cases h
  · cases hi : d.items <;> rw [hi] at h <;> cases h
  · cases h

theorem typeName_of_simpleKind?_object {d : Descriptor} (h : d.simpleKind? = some .object) :
    d.typeName = some "object" := by
  unfold simpleKind? at h
  split at h
  · split at h <;> cases h
  · cases h
  next ht => exact ht
  · cases h
  · cases h
  · cases h

theorem typeName_of_object {d : Descriptor} (h : d.kind? = some .object) :
    d.typeName = some "object" := by
  unfold kind? at h
  cases hl : d.leadingKind? with
  | some kind =>
    rw [hl] at h
    exact absurd (hl.trans h) d.leadingKind?_ne_object
  | none =>
    rw [hl] at h
    cases hc : d.choices <;> rw [hc] at h
    · cases hr : d.reference <;> rw [hr] at h
      · cases hs : d.simpleKind? with
        | some kind =>
          rw [hs] at h
          exact typeName_of_simpleKind?_object (hs.trans h)
        | none =>
          rw [hs] at h
          cases hv : d.value <;> rw [hv] at h <;> cases h
      · cases h
    · cases h

theorem written?_type {d : Descriptor} {t : String} (h : d.typeName = some t) :
    d.written? "type" = some (.text t) := by
  cases d
  simp only at h
  subst h
  simp only [written?, toJson, Json.fields?, Option.getD_some, Option.map_some]
  rw [field]
  simp only [List.cons_append, Fields.find?]
  exact if_pos rfl

/-- Only functions are reshaped. -/
theorem overridden_of_object {d d' : Descriptor} (hk : d.kind? = some .object)
    (h : d.overridden? = some d') : d' = d := by
  unfold overridden? at h
  rcases d.override?_cases with hc | hc | ⟨hc, ht⟩ <;> rw [hc] at h
  · exact (Option.some.inj h).symm
  · cases h
  · rw [written?_type (typeName_of_object hk), Option.some_beq_some, Json.text_beq_text] at ht
    exact absurd ht (by decide)

end SchemaTypings.Descriptor
