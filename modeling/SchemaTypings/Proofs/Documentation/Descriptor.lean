import Mathlib.Data.List.Find
import SchemaTypings.Descriptor.Depth
import SchemaTypings.Proofs.Descriptor.Override
import SchemaTypings.Typing.Variants

/-!
# Descriptors without documentation

Descriptions, deprecation marks, the documentation of choices and the unknown keys of a descriptor tell a
reader something and a generator nothing. One unknown key is different: the table of overrides asks for
`postprocess`.

* `Descriptor.undocumented`: a descriptor without all this, at every depth.
* `Descriptor.kind?_undocumented`, `Descriptor.overridden?_undocumented`: kinds and overrides stay.
* `Variants.all_undocumented`: the variants of a parameter list stay.
-/

namespace SchemaTypings

/-- A choice without its documentation. -/
def EnumChoice.undocumented : EnumChoice → EnumChoice
  | plain value => plain value
  | named name _ => named name none
  | other value => other value

namespace Descriptor

/-- The unknown key that the table of overrides asks for. -/
def postprocessKey : String := "postprocess"

/-- Whether a key matters: it has a meaning of its own, or an override asks for it. -/
def isSignificant (key : String) : Bool := (Key.ofString? key).isSome || key == postprocessKey

mutual

/-- The descriptor without descriptions, deprecation marks and insignificant keys, at every depth. -/
def undocumented : Descriptor → Descriptor
  | ⟨typeName, id, name, _, _, unsupported, optional, reference, choices, value, enumChoices, items,
      properties, patternProperties, additionalProperties, functions, isInstanceOf, parameters,
      extraParameters, returns, asynchronous, extra⟩ =>
    { typeName, id, name, unsupported, optional, reference
      choices := undocumentedList? choices
      value
      enumChoices := enumChoices.map fun choices => choices.map EnumChoice.undocumented
      items := undocumented? items
      properties := undocumentedMap? properties
      patternProperties := undocumentedMap? patternProperties
      additionalProperties := undocumentedAdditional? additionalProperties
      functions := undocumentedList? functions
      isInstanceOf
      parameters := undocumentedList? parameters
      extraParameters := undocumentedList? extraParameters
      returns := undocumented? returns
      asynchronous
      extra := extra.filter fun entry => isSignificant entry.1 }

/-- A present descriptor without documentation. -/
def undocumented? : Option Descriptor → Option Descriptor
  | none => none
  | some d => some (undocumented d)

/-- A present list without documentation. -/
def undocumentedList? : Option (List Descriptor) → Option (List Descriptor)
  | none => none
  | some ds => some (undocumentedList ds)

/-- A list without documentation. -/
def undocumentedList : List Descriptor → List Descriptor
  | [] => []
  | d :: ds => undocumented d :: undocumentedList ds

/-- A present map without documentation. -/
def undocumentedMap? : Option (List (String × Descriptor)) → Option (List (String × Descriptor))
  | none => none
  | some entries => some (undocumentedMap entries)

/-- A map without documentation. -/
def undocumentedMap : List (String × Descriptor) → List (String × Descriptor)
  | [] => []
  | entry :: rest => undocumentedEntry entry :: undocumentedMap rest

/-- An entry without documentation. -/
def undocumentedEntry : String × Descriptor → String × Descriptor
  | (key, d) => (key, undocumented d)

/-- What is allowed under other keys, without documentation. -/
def undocumentedAdditional? : Option (Additional Descriptor) → Option (Additional Descriptor)
  | none => none
  | some additional => some (undocumentedAdditional additional)

/-- A flag or a descriptor without documentation. -/
def undocumentedAdditional : Additional Descriptor → Additional Descriptor
  | .allowed any => .allowed any
  | .schema d => .schema (undocumented d)

end

theorem undocumentedList_eq_map (ds : List Descriptor) :
    undocumentedList ds = ds.map undocumented := by
  induction ds with
  | nil => rfl
  | cons d ds ih => rw [undocumentedList, ih, List.map_cons]

theorem undocumentedMap_eq_map (entries : List (String × Descriptor)) :
    undocumentedMap entries = entries.map undocumentedEntry := by
  induction entries with
  | nil => rfl
  | cons entry rest ih => rw [undocumentedMap, ih, List.map_cons]

theorem undocumentedList?_eq_map (ds? : Option (List Descriptor)) :
    undocumentedList? ds? = ds?.map (·.map undocumented) := by
  cases ds? with
  | none => rfl
  | some ds => exact congrArg some (undocumentedList_eq_map ds)

theorem getD_undocumentedList? (ds? : Option (List Descriptor)) :
    (undocumentedList? ds?).getD [] = (ds?.getD []).map undocumented := by
  rw [undocumentedList?_eq_map]
  cases ds? <;> rfl

theorem getD_undocumentedMap? (entries? : Option (List (String × Descriptor))) :
    (undocumentedMap? entries?).getD [] = (entries?.getD []).map undocumentedEntry := by
  cases entries? with
  | none => rfl
  | some entries => exact undocumentedMap_eq_map entries

theorem undocumented?_eq_map (d? : Option Descriptor) : undocumented? d? = d?.map undocumented := by
  cases d? <;> rfl

/-! ## Single keys -/

section Keys

variable (d : Descriptor)

@[simp] theorem id_undocumented : d.undocumented.id = d.id := by cases d; rfl

@[simp] theorem name_undocumented : d.undocumented.name = d.name := by cases d; rfl

@[simp] theorem identifier?_undocumented : d.undocumented.identifier? = d.identifier? := by
  cases d; rfl

@[simp] theorem isUnsupported_undocumented : d.undocumented.isUnsupported = d.isUnsupported := by
  cases d; rfl

@[simp] theorem isOptional_undocumented : d.undocumented.isOptional = d.isOptional := by cases d; rfl

@[simp] theorem isCallback_undocumented : d.undocumented.isCallback = d.isCallback := by cases d; rfl

@[simp] theorem isAsync_undocumented : d.undocumented.isAsync = d.isAsync := by cases d; rfl

@[simp] theorem isInstanceOf_undocumented : d.undocumented.isInstanceOf = d.isInstanceOf := by
  cases d; rfl

@[simp] theorem description_undocumented : d.undocumented.description = none := by cases d; rfl

@[simp] theorem deprecation?_undocumented : d.undocumented.deprecation? = none := by cases d; rfl

@[simp] theorem returns_undocumented : d.undocumented.returns = d.returns.map undocumented := by
  cases d; exact undocumented?_eq_map _

@[simp] theorem params_undocumented : d.undocumented.params = d.params.map undocumented := by
  cases d; exact getD_undocumentedList? _

@[simp] theorem extraParams_undocumented :
    d.undocumented.extraParams = d.extraParams.map undocumented := by
  cases d; exact getD_undocumentedList? _

@[simp] theorem hasExtraParameters_undocumented :
    d.undocumented.hasExtraParameters = d.hasExtraParameters := by
  rw [hasExtraParameters, hasExtraParameters, extraParams_undocumented, List.isEmpty_map]

@[simp] theorem functions_undocumented :
    d.undocumented.functions.getD [] = (d.functions.getD []).map undocumented := by
  cases d; exact getD_undocumentedList? _

@[simp] theorem properties_undocumented :
    d.undocumented.properties.getD [] = (d.properties.getD []).map undocumentedEntry := by
  cases d; exact getD_undocumentedMap? _

@[simp] theorem patternProperties_undocumented :
    d.undocumented.patternProperties.getD [] =
      (d.patternProperties.getD []).map undocumentedEntry := by
  cases d; exact getD_undocumentedMap? _

theorem additionalProperties_undocumented :
    d.undocumented.additionalProperties = d.additionalProperties.map undocumentedAdditional := by
  obtain ⟨_, _, _, _, _, _, _, _, _, _, _, _, _, _, additional, _, _, _, _, _, _, _⟩ := d
  cases additional <;> rfl

end Keys

/-! ## Changes to a descriptor -/

theorem undocumented_withOptional (d : Descriptor) (on : Bool) :
    (d.withOptional on).undocumented = d.undocumented.withOptional on := by cases d; rfl

theorem undocumented_asReferenceTo (d : Descriptor) (target : String) :
    (d.asReferenceTo target).undocumented = d.undocumented.asReferenceTo target := by cases d; rfl

theorem undocumented_asResponder (d : Descriptor) :
    d.asResponder.undocumented = d.undocumented.asResponder := by
  unfold asResponder
  rw [name_undocumented]
  split
  · cases d; rfl
  · rfl

theorem undocumented_reshapeResponders (d : Descriptor) :
    d.reshapeResponders.undocumented = d.undocumented.reshapeResponders := by
  have hparameters : ∀ ps? : Option (List Descriptor),
      undocumentedList? (ps?.map (·.map asResponder)) = (undocumentedList? ps?).map (·.map asResponder) := by
    intro ps?
    rw [undocumentedList?_eq_map, undocumentedList?_eq_map, Option.map_map, Option.map_map]
    congr 1
    funext ps
    simp only [Function.comp_apply, List.map_map]
    exact List.map_congr_left fun p _ => undocumented_asResponder p
  cases d
  simp only [reshapeResponders, undocumented, hparameters]

/-! ## Kinds -/

end Descriptor

/-- The kind without documentation. -/
def Kind.undocumented : Kind → Kind
  | array items => array items.undocumented
  | union choices => union (choices.map Descriptor.undocumented)
  | enumString choices => enumString (choices.map EnumChoice.undocumented)
  | kind => kind

namespace Descriptor

theorem leadingKind?_undocumented (d : Descriptor) :
    d.undocumented.leadingKind? = d.leadingKind?.map Kind.undocumented := by
  cases d
  simp only [leadingKind?, undocumented]
  split
  · rfl
  · rfl
  · rfl
  · rw [undocumented?_eq_map, Option.map_map, Option.map_map]
    rfl
  · rfl

theorem simpleKind?_undocumented (d : Descriptor) :
    d.undocumented.simpleKind? = d.simpleKind?.map Kind.undocumented := by
  obtain ⟨_, _, _, _, _, _, _, _, _, _, choices, _, _, _, _, _, _, _, _, _, _, _⟩ := d
  simp only [simpleKind?, undocumented]
  split
  · cases choices <;> rfl
  · rfl
  · rfl
  · rfl
  · rfl
  · rfl

/-- A descriptor stays of its kind. -/
theorem kind?_undocumented (d : Descriptor) :
    d.undocumented.kind? = d.kind?.map Kind.undocumented := by
  have hchoices : d.undocumented.choices = d.choices.map (·.map undocumented) := by
    cases d; exact undocumentedList?_eq_map _
  have hreference : d.undocumented.reference = d.reference := by cases d; rfl
  have hvalue : d.undocumented.value = d.value := by cases d; rfl
  simp only [kind?, Option.orElse_eq_orElse, Option.orElse_eq_or, Option.map_or,
    leadingKind?_undocumented, simpleKind?_undocumented, hchoices, hreference, hvalue,
    Option.map_map]
  rfl

/-! ## Depth -/

mutual

/-- Nothing is nested less deep. -/
theorem depth_undocumented : ∀ d : Descriptor, d.undocumented.depth = d.depth
  | ⟨_, _, _, _, _, _, _, _, choices, _, _, items, properties, patternProperties,
      additionalProperties, functions, _, parameters, extraParameters, returns, _, _⟩ => by
    simp only [undocumented, depth, listDepth?_undocumented, depth?_undocumented,
      mapDepth?_undocumented, additionalDepth?_undocumented]

theorem depth?_undocumented : ∀ d? : Option Descriptor, depth? (undocumented? d?) = depth? d?
  | none => rfl
  | some d => depth_undocumented d

theorem listDepth?_undocumented :
    ∀ ds? : Option (List Descriptor), listDepth? (undocumentedList? ds?) = listDepth? ds?
  | none => rfl
  | some ds => listDepth_undocumented ds

theorem listDepth_undocumented :
    ∀ ds : List Descriptor, listDepth (undocumentedList ds) = listDepth ds
  | [] => rfl
  | d :: ds => by
    rw [undocumentedList, listDepth, listDepth, depth_undocumented, listDepth_undocumented]

theorem mapDepth?_undocumented :
    ∀ entries? : Option (List (String × Descriptor)),
      mapDepth? (undocumentedMap? entries?) = mapDepth? entries?
  | none => rfl
  | some entries => mapDepth_undocumented entries

theorem mapDepth_undocumented :
    ∀ entries : List (String × Descriptor), mapDepth (undocumentedMap entries) = mapDepth entries
  | [] => rfl
  | entry :: rest => by
    rw [undocumentedMap, mapDepth, mapDepth, entryDepth_undocumented, mapDepth_undocumented]

theorem entryDepth_undocumented :
    ∀ entry : String × Descriptor, entryDepth (undocumentedEntry entry) = entryDepth entry
  | (_, d) => depth_undocumented d

theorem additionalDepth?_undocumented :
    ∀ additional? : Option (Additional Descriptor),
      additionalDepth? (undocumentedAdditional? additional?) = additionalDepth? additional?
  | none => rfl
  | some additional => additionalDepth_undocumented additional

theorem additionalDepth_undocumented :
    ∀ additional : Additional Descriptor,
      additionalDepth (undocumentedAdditional additional) = additionalDepth additional
  | .allowed _ => rfl
  | .schema d => depth_undocumented d

end

/-! ## Overrides -/

theorem find?_significant {key : String} (h : isSignificant key = true) (extra : Fields Json) :
    Fields.find? key (extra.filter fun entry => isSignificant entry.1) = Fields.find? key extra := by
  induction extra with
  | nil => rfl
  | cons entry rest ih =>
    obtain ⟨k, value⟩ := entry
    rw [List.filter_cons]
    split
    · rw [Fields.find?, Fields.find?, ih]
    next hk =>
      have hne : k ≠ key := fun heq => hk (heq ▸ h)
      rw [ih, Fields.find?, if_neg hne]

/-- The keys that the table of overrides asks for. -/
def overrideKeys : List String := overrideRules.flatMap fun rule => rule.pattern.map Prod.fst

/-- The table asks for nothing that documentation could change. -/
theorem written?_undocumented (d : Descriptor) {key : String} (h : key ∈ overrideKeys) :
    d.undocumented.written? key = d.written? key := by
  have hsignificant : ∀ k ∈ overrideKeys, isSignificant k = true := by decide +kernel
  have hextra := find?_significant (hsignificant key h)
  have hkeys : key = "id" ∨ key = "isInstanceOf" ∨ key = "postprocess" ∨ key = "type" ∨
      key = "unsupported" ∨ key = "name" := by
    simp only [overrideKeys, overrideRules, List.flatMap_cons, List.flatMap_nil, List.map_cons,
      List.map_nil, List.mem_append, List.mem_cons, List.not_mem_nil, or_false] at h
    grind
  cases d
  simp only [written?, undocumented, toJson, Json.fields?, Option.getD_some, Fields.find?_append,
    find?_field, hextra]
  rcases hkeys with rfl | rfl | rfl | rfl | rfl | rfl <;> simp [Key.spelling]

theorem applies_undocumented {rule : OverrideRule} (h : rule ∈ overrideRules) (d : Descriptor) :
    rule.applies (d.undocumented.toJson.fields?.getD []) =
      rule.applies (d.toJson.fields?.getD []) := by
  unfold OverrideRule.applies
  rw [Bool.eq_iff_iff, List.all_eq_true, List.all_eq_true]
  refine forall₂_congr ?_
  rintro ⟨key, expected⟩ hentry
  have hkey : key ∈ overrideKeys :=
    List.mem_flatMap.mpr ⟨rule, h, List.mem_map.mpr ⟨(key, expected), hentry, rfl⟩⟩
  have hwritten := written?_undocumented d hkey
  unfold written? at hwritten
  dsimp only
  rw [hwritten]

theorem override?_undocumented (d : Descriptor) : d.undocumented.override? = d.override? := by
  have hfind : overrideRules.find? (·.applies (d.undocumented.toJson.fields?.getD [])) =
      overrideRules.find? (·.applies (d.toJson.fields?.getD [])) :=
    List.find?_congr fun _ hrule => applies_undocumented hrule d
  simp only [override?, isUnsupported_undocumented, id_undocumented, name_undocumented, hfind]

/-- An override skips a descriptor without documentation if it skips the descriptor, and puts the same in its
place. -/
theorem overridden?_undocumented (d : Descriptor) :
    d.undocumented.overridden? = d.overridden?.map undocumented := by
  unfold overridden?
  rw [override?_undocumented]
  rcases d.override?_cases with h | h | ⟨h, -⟩
  · rw [h]; rfl
  · rw [h]; rfl
  · rw [h]
    exact congrArg some (undocumented_reshapeResponders d).symm

end Descriptor

/-! ## Variants -/

namespace Variants

open Descriptor (undocumented)

theorem isInner_undocumented (p : Descriptor) (later : List Descriptor) :
    isInner p.undocumented (later.map undocumented) = isInner p later := by
  simp only [isInner, Descriptor.isCallback_undocumented, Descriptor.isOptional_undocumented,
    List.any_map, Function.comp_def]

theorem innerPositions_undocumented (ps : List Descriptor) :
    innerPositions (ps.map undocumented) = innerPositions ps := by
  have hfrom : ∀ index, innerPositionsFrom index (ps.map undocumented) =
      innerPositionsFrom index ps := by
    induction ps with
    | nil => exact fun _ => rfl
    | cons p rest ih =>
      intro index
      simp only [List.map_cons, innerPositionsFrom, isInner_undocumented, ih]
  exact hfrom 0

theorem variantFrom_undocumented (keep : Nat → Bool) (rank : Nat) (ps : List Descriptor) :
    variantFrom keep rank (ps.map undocumented) = (variantFrom keep rank ps).map undocumented := by
  induction ps generalizing rank with
  | nil => rfl
  | cons p rest ih =>
    simp only [List.map_cons, variantFrom, isInner_undocumented, ih,
      ← Descriptor.undocumented_withOptional]
    split
    · split <;> rfl
    · rfl

/-- A parameter list without documentation has the same variants, without documentation. -/
theorem all_undocumented (ps : List Descriptor) :
    all (ps.map undocumented) = (all ps).map (·.map undocumented) := by
  unfold all full
  simp only [innerPositions_undocumented, variantFrom_undocumented, partialOf]
  split
  · rfl
  · rw [List.map_cons, List.map_map]
    rfl

end Variants

end SchemaTypings
