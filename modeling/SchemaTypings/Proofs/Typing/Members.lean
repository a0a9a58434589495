import SchemaTypings.Proofs.Functions.OverloadSet
import SchemaTypings.Proofs.Typing.Levels
import SchemaTypings.Proofs.Typing.Object

/-!
# The members of an object

An object takes its members from its properties, its functions and its patterns, in this order, and from
nothing else. A property or a pattern that makes no member is reported.

* `property?`, `methods`, `bareProperty?`, `IsIndex`: the members for one declaration each.
* `propertyReport`, `methodReport`, `patternReport`: what is reported for it.
* `ObjectTyping.Collected`: the members of an object and the report on them.
* `ObjectTyping.attempt_members`: objects are made of them, in place and under a name.
-/

namespace SchemaTypings

theorem Descriptor.slot_interface {d : Descriptor} {name : String} (h : d.identifier? = some name)
    (kind : String) : (d.slot kind .interface).run = pure (.ok (.member name)) := by
  unfold slot
  rw [h]
  rfl

namespace ObjectTyping

variable {inline : InlineTyping} {scope : Scope} {d : Descriptor}

/-! ## Members -/

/-- The type of an entry, if it has one. -/
def entryType? (scope : Scope) (entry : String × Descriptor) : Option TypeExpr :=
  (scope.inlineType entry.2).value

/-- The property for a declared property with a type. -/
def property? (scope : Scope) (entry : String × Descriptor) : Option (Member TypeExpr) :=
  (entryType? scope entry).map fun type =>
    .property entry.1 type entry.2.isOptional entry.2.docComment

/-- The method with this name over a parameter list. -/
def methodOver (scope : Scope) (f : Descriptor) (name : String) (ps : List Descriptor) :
    Member TypeExpr :=
  let shown := Signature.visible .consume ps
  .method name (shown.mapIdx (Signature.param scope.inlineType))
    (Signature.returnType scope.inlineType f ps .consume).value (Signature.doc f shown)

/-- The methods for a declared function: one for each variant of its parameters, if it is supported, not
skipped and has a name. -/
def methods (scope : Scope) (f : Descriptor) : List (Member TypeExpr) :=
  if f.isUnsupported then []
  else
    match f.overridden?, f.identifier? with
    | some g, some name => (Variants.all g.params).map (methodOver scope g name)
    | _, _ => []

/-- The property for a pattern with a type that is an identifier. -/
def bareProperty? (scope : Scope) (entry : String × Descriptor) : Option (Member TypeExpr) :=
  if Text.isIdentifier entry.1 then
    (entryType? scope entry).map fun type => .property entry.1 type true entry.2.docComment
  else none

/-- The types of the other patterns. -/
def indexTypes (scope : Scope) (entries : List (String × Descriptor)) : List TypeExpr :=
  (entries.filter fun entry => !Text.isIdentifier entry.1).filterMap (entryType? scope)

/-- At most one index signature, over all types. -/
structure IsIndex (types : List TypeExpr) (index : List (Member TypeExpr)) : Prop where
  absent : types = [] → index = []
  single : ∀ type, types = [type] → index = [.index "key" type]
  several : 2 ≤ types.length → index = [.index "key" (.union types)]

/-! ## Reports -/

/-- The report on a declared property: that on its type, and a problem if it has none. -/
def propertyReport (scope : Scope) (d : Descriptor) (entry : String × Descriptor) : Diagnostics :=
  (scope.inlineType entry.2).diagnostics ++
    if (entryType? scope entry).isSome then []
    else if entry.2.isUnsupported then
      [⟨.warning, some scope.space, .unsupportedProperty (memberPath scope d entry.1)⟩]
    else [⟨.error, some scope.space, .untypedProperty (memberPath scope d entry.1)⟩]

/-- The report on one signature of a method; without a name there is none. -/
def signatureReport (scope : Scope) (f : Descriptor) (ps : List Descriptor) : Diagnostics :=
  if f.identifier?.isSome then
    (Signature.returnType scope.inlineType f ps .consume).diagnostics ++
      (Signature.visible .consume ps).flatMap fun p => (scope.inlineType p).diagnostics
  else [⟨.error, some scope.space, .failedMethod f.label (.missingIdentifier "function" .interface)⟩]

/-- The report on a declared function. -/
def methodReport (scope : Scope) (d f : Descriptor) : Diagnostics :=
  if f.isUnsupported then
    [⟨.warning, some scope.space,
      .unsupportedFunction (memberPath scope d (f.identifier?.getD "<unnamed>"))⟩]
  else
    match f.overridden? with
    | some g => (Variants.all g.params).flatMap (signatureReport scope g)
    | none => []

/-- The report on a pattern: that on its type, and a warning if it has none. -/
def patternReport (scope : Scope) (d : Descriptor) (entry : String × Descriptor) : Diagnostics :=
  (scope.inlineType entry.2).diagnostics ++
    if (entryType? scope entry).isSome then []
    else [⟨.warning, some scope.space, .untypedPattern (memberPath scope d entry.1)⟩]

/-- The members of an object and the report on them. -/
structure Collected (scope : Scope) (d : Descriptor) (members : List (Member TypeExpr))
    (reported : Diagnostics) : Prop where
  /-- Properties come first, then methods, then patterns; an index signature is last. -/
  members_eq : ∃ index, IsIndex (indexTypes scope (d.patternProperties.getD [])) index ∧
    members = (d.properties.getD []).filterMap (property? scope) ++
      ((d.functions.getD []).flatMap (methods scope) ++
        ((d.patternProperties.getD []).filterMap (bareProperty? scope) ++ index))
  /-- Everything declared is reported on in the same order. -/
  reported_eq : reported = (d.properties.getD []).flatMap (propertyReport scope d) ++
    ((d.functions.getD []).flatMap (methodReport scope d) ++
      (d.patternProperties.getD []).flatMap (patternReport scope d))

/-- An object made of these members. -/
structure MadeOf (scope : Scope) (d : Descriptor) (members : List (Member TypeExpr))
    (reported : Diagnostics) : Prop where
  /-- In place it is a type over the members, -/
  inline : (scope.attempt d .inline).run.value =
    .ok (some (.type (objectType d members (additionalType scope.inlineType d).value)))
  /-- under a name a declaration over them. -/
  named : ∀ context name, context ≠ .inline → d.id = some name →
    (scope.attempt d context).run.value = .ok (some (.declaration
      (d.declared name (namedBody d members (additionalType scope.inlineType d).value))))
  /-- The report on the members is followed by that on additional properties. -/
  reports : ∀ context, context = .inline ∨ d.id.isSome = true →
    (scope.attempt d context).run.diagnostics =
      reported ++ (additionalType scope.inlineType d).diagnostics

/-! ## Properties -/

theorem value_propertyMember_eq (d : Descriptor) (entry : String × Descriptor) :
    (propertyMember scope.inlineType scope d entry).value = property? scope entry :=
  value_propertyMember scope.inlineType scope d entry

theorem diagnostics_propertyMember (d : Descriptor) (entry : String × Descriptor) :
    (propertyMember scope.inlineType scope d entry).diagnostics = propertyReport scope d entry := by
  unfold propertyMember propertyReport entryType?
  rw [Reporting.diagnostics_bind]
  cases (scope.inlineType entry.2).value with
  | some type => rfl
  | none =>
    dsimp only
    split <;> rfl

/-! ## Methods -/

theorem value_methodSignature {name : String} (f : Descriptor) (ps : List Descriptor)
    (h : f.identifier? = some name) :
    (methodSignature scope.inlineType scope f ps).value = some (methodOver scope f name ps) := by
  unfold methodSignature
  rw [Reporting.value_bind,
    Signature.value_typing scope.inlineType (Descriptor.slot_interface h "function"),
    Signature.value_params]
  rfl

theorem methodSignature_nameless (f : Descriptor) (ps : List Descriptor)
    (h : f.identifier? = none) :
    (methodSignature scope.inlineType scope f ps).value = none ∧
      (methodSignature scope.inlineType scope f ps).diagnostics = signatureReport scope f ps := by
  have hslot : (f.slot "function" .interface).run =
      pure (.error (.missingIdentifier "function" .interface)) :=
    Descriptor.slot_run_none h (by decide) "function"
  unfold methodSignature signatureReport Signature.typing
  rw [ExceptT.run_bind, hslot, h]
  exact ⟨rfl, rfl⟩

theorem diagnostics_methodSignature (f : Descriptor) (ps : List Descriptor) :
    (methodSignature scope.inlineType scope f ps).diagnostics = signatureReport scope f ps := by
  cases h : f.identifier? with
  | none => exact (methodSignature_nameless f ps h).2
  | some name =>
    have hslot := Descriptor.slot_interface h "function"
    unfold methodSignature signatureReport
    rw [Reporting.diagnostics_bind, Signature.diagnostics_typing scope.inlineType hslot,
      Signature.value_typing scope.inlineType hslot, h]
    exact List.append_nil _

theorem value_methodMembers_eq (d f : Descriptor) :
    (methodMembers scope.inlineType scope d f).value = methods scope f := by
  rw [value_methodMembers]
  unfold methods expandMethod
  split
  · rfl
  cases hg : f.overridden? with
  | none => rfl
  | some g =>
    dsimp only
    rw [Reporting.value_collect, ← Descriptor.identifier?_of_overridden hg]
    cases hid : g.identifier? with
    | none => exact List.filterMap_eq_nil_iff.mpr fun ps _ => (methodSignature_nameless g ps hid).1
    | some name =>
      simp only [value_methodSignature g _ hid]
      exact congrFun List.filterMap_eq_map _

theorem diagnostics_methodMembers (d f : Descriptor) :
    (methodMembers scope.inlineType scope d f).diagnostics = methodReport scope d f := by
  unfold methodMembers methodReport
  split
  · rfl
  unfold expandMethod
  cases f.overridden? with
  | none => rfl
  | some g =>
    dsimp only
    rw [Reporting.diagnostics_collect]
    simp only [diagnostics_methodSignature]

/-! ## Patterns -/

theorem diagnostics_patternType (d : Descriptor) (entry : String × Descriptor) :
    (patternType scope.inlineType scope d entry).diagnostics = patternReport scope d entry := by
  unfold patternType patternReport entryType?
  rw [Reporting.diagnostics_bind]
  cases (scope.inlineType entry.2).value <;> rfl

theorem isIndex_indexMember (types : List TypeExpr) : IsIndex types (indexMember types) := by
  refine ⟨?_, ?_, fun h => ?_⟩
  · rintro rfl
    rfl
  · rintro type rfl
    rfl
  · match types, h with
    | _ :: _ :: _, _ => rfl

/-- Patterns that are identifiers and the others, told apart before their types are. -/
theorem patternMembers_eq (d : Descriptor) (entries : List (String × Descriptor)) :
    patternMembers (entries.filterMap fun entry =>
        (patternType scope.inlineType scope d entry).value) =
      entries.filterMap (bareProperty? scope) ++ indexMember (indexTypes scope entries) := by
  have hvalue : (fun entry => (patternType scope.inlineType scope d entry).value) =
      fun entry => (entryType? scope entry).map fun type => (entry.1, type, entry.2.docComment) :=
    funext (value_patternType scope.inlineType scope d)
  unfold patternMembers indexTypes
  rw [hvalue, List.partition_eq_filter_filter]
  dsimp only
  rw [List.filter_filterMap, List.filter_filterMap, List.map_filterMap, List.map_filterMap,
    List.filterMap_filter]
  -- an entry without a type is on neither side
  congr 2
  · funext entry
    unfold bareProperty?
    cases entryType? scope entry with
    | none => simp
    | some type => cases h : Text.isIdentifier entry.1 <;> simp [Option.filter, h]
  · refine congrArg (List.filterMap · entries) (funext fun entry => ?_)
    cases entryType? scope entry with
    | none => simp
    | some type => cases h : Text.isIdentifier entry.1 <;> simp [Option.filter, h]

/-! ## Objects -/

theorem collected_members (scope : Scope) (d : Descriptor) :
    Collected scope d (members scope.inlineType scope d).value
      (members scope.inlineType scope d).diagnostics := by
  constructor
  · refine ⟨_, isIndex_indexMember _, ?_⟩
    rw [value_members, patternMembers_eq]
    simp only [value_propertyMember_eq, value_methodMembers_eq, List.append_assoc]
  · unfold members
    rw [Reporting.diagnostics_bind, Reporting.diagnostics_bind, Reporting.diagnostics_bind,
      Reporting.diagnostics_collect, Reporting.diagnostics_collectAll, Reporting.diagnostics_collect,
      Reporting.diagnostics_pure, List.append_nil]
    simp only [diagnostics_propertyMember, diagnostics_methodMembers, diagnostics_patternType]

/-- An object that is not skipped is generated as it is. -/
theorem attempt_object (scope : Scope) (hk : d.kind? = some .object) (hs : ¬d.IsSkipped)
    (context : Context) :
    scope.attempt d context = some <$> typing scope.inlineType d scope context := by
  have ho : d.overridden? = some d := by
    cases ho : d.overridden? with
    | none => exact absurd (Descriptor.overridden?_eq_none_iff.mp ho) hs
    | some d' => rw [Descriptor.overridden_of_object hk ho]
  rw [scope.attempt_eq]
  unfold Scope.typing
  rw [ho]
  dsimp only
  rw [hk]
  rfl

theorem value_typing_of_id {context : Context} {name : String} (hc : context ≠ .inline)
    (hid : d.id = some name) :
    (typing inline d scope context).run.value = .ok (.declaration (d.declared name
      (namedBody d (members inline scope d).value (additionalType inline d).value))) := by
  unfold typing
  rw [ExceptT.run_bind, Descriptor.contextId_run_some hid hc]
  rfl

/-- **Members of objects are neither lost nor invented.** An object that is not skipped is made of the
properties with a type, of the methods that are supported, not skipped and named, of the patterns that
are identifiers and of one index signature for the others; properties and patterns that are missing are
reported. -/
theorem attempt_members (scope : Scope) (hk : d.kind? = some .object) (hs : ¬d.IsSkipped) :
    ∃ members reported, Collected scope d members reported ∧ MadeOf scope d members reported := by
  refine ⟨_, _, collected_members scope d, ?_, fun context name hc hid => ?_, fun context h => ?_⟩
  · rw [attempt_object scope hk hs, ExceptT.run_map, Reporting.value_map, value_typing_inline]
    rfl
  · rw [attempt_object scope hk hs, ExceptT.run_map, Reporting.value_map,
      value_typing_of_id hc hid]
    rfl
  · rw [attempt_object scope hk hs, ExceptT.run_map, Reporting.diagnostics_map]
    by_cases hc : context = .inline
    · subst hc
      exact diagnostics_typing rfl
    · obtain ⟨name, hid⟩ := Option.isSome_iff_exists.mp (h.resolve_left hc)
      exact diagnostics_typing (Descriptor.contextId_run_some hid hc _)

/-- An object with members of every sort, and with some declarations that are not members. -/
def panel : Descriptor :=
  { typeName := some "object", id := some "Panel",
    properties := some [
      ("title", { typeName := some "string" }),
      ("broken", { choices := some [] }),
      ("hidden", { typeName := some "string", unsupported := some true })],
    functions := some [
      { typeName := some "function", name := some "pin",
        parameters := some [
          { name := some "side", typeName := some "string", optional := some (.flag true) },
          { name := some "width", typeName := some "integer" }] }],
    patternProperties := some [
      ("icon", { typeName := some "string" }),
      ("^data-", { typeName := some "string" }),
      ("^size-", { typeName := some "integer" }),
      ("^none-", { choices := some [] })] }

open FunctionTyping (emptyScope) in
theorem attempt_members_panel :
    ∃ members reported, Collected emptyScope panel members reported ∧
      MadeOf emptyScope panel members reported ∧
      members.map (·.name?) = [some "title", some "pin", some "pin", some "icon", none] := by
  have hs : ¬panel.IsSkipped := by
    have hnone : panel.override? = none := by with_unfolding_all rfl
    unfold Descriptor.IsSkipped
    rw [hnone]
    exact nofun
  obtain ⟨members, reported, hcollected, hmade⟩ := attempt_members emptyScope (d := panel) rfl hs
  refine ⟨members, reported, hcollected, hmade, ?_⟩
  obtain ⟨index, hindex, hmembers⟩ := hcollected.members_eq
  rw [hmembers, hindex.several (by with_unfolding_all decide)]
  with_unfolding_all rfl

end ObjectTyping

end SchemaTypings
