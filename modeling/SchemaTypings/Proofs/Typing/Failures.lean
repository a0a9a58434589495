import SchemaTypings.Proofs.Descriptor.Nodes
import SchemaTypings.Proofs.Typing.Named

/-!
# When generation fails

Whether a descriptor has a type is told by the descriptor alone. A failure passes upwards through
unions only: below lists, objects and signatures it costs the item, the member or the parameter.

* `Descriptor.Representable`: the descriptors with a type.
* `Descriptor.InlineFault`: why there is none.
* `Descriptor.InlineOutcome`: the three ways in which the type of a descriptor can come out.
* `Scope.attempt_outcomes`: what generating a descriptor comes to, inline and under a name.
-/

namespace SchemaTypings

/-! ## Descriptors with a type -/

/-- Strings, numbers and booleans. -/
def Json.IsScalar : Json → Prop
  | .text _ | .number _ | .bool _ => True
  | .null | .array _ | .object _ => False

/-- Whether every descriptor of the kind has a type. -/
def Kind.isPlain : Kind → Bool
  | .union _ | .staticValue _ => false
  | _ => true

/-- What a kind needs to have a type, where `P` says which descriptors have one: a constant value has
to be a scalar, and one choice of a union has to have a type. -/
def Kind.HasType (P : Descriptor → Prop) : Kind → Prop
  | .staticValue value => value.IsScalar
  | .union choices => ∃ choice ∈ choices, P choice
  | _ => True

namespace Descriptor

/-- An override leaves the descriptor out. -/
def IsSkipped (d : Descriptor) : Prop := d.override? = some .skip

/-- The descriptor has a type wherever it stands. -/
inductive Representable : Descriptor → Prop
  | plain {d : Descriptor} {kind : Kind} (hs : ¬d.IsSkipped) (hk : d.kind? = some kind)
      (hp : kind.isPlain = true) : Representable d
  | staticValue {d : Descriptor} {value : Json} (hs : ¬d.IsSkipped)
      (hk : d.kind? = some (.staticValue value)) (hv : value.IsScalar) : Representable d
  | union {d choice : Descriptor} {choices : List Descriptor} (hs : ¬d.IsSkipped)
      (hk : d.kind? = some (.union choices)) (hm : choice ∈ choices)
      (hc : Representable choice) : Representable d

/-- Why a descriptor that is not skipped has no type. -/
inductive InlineFault (d : Descriptor) : GenerateFault → Prop
  | unclassifiable (hs : ¬d.IsSkipped) (hk : d.kind? = none) :
      InlineFault d (.unclassifiable d.label)
  | invalidStaticValue {value : Json} (hs : ¬d.IsSkipped)
      (hk : d.kind? = some (.staticValue value)) (hv : ¬value.IsScalar) :
      InlineFault d (.invalidStaticValue value)
  | emptyUnion {choices : List Descriptor} (hs : ¬d.IsSkipped)
      (hk : d.kind? = some (.union choices)) (hc : ∀ choice ∈ choices, ¬choice.Representable) :
      InlineFault d (.emptyUnion d.label)

/-- The name that a descriptor of a kind is declared under. -/
def nameAs (d : Descriptor) (kind : Kind) : Option String :=
  if kind.isPlaced then d.identifier? else d.id

/-- The name that the kind is declared under is missing. -/
def LacksName (d : Descriptor) : Prop := ∃ kind, d.kind? = some kind ∧ d.nameAs kind = none

theorem representable_iff {d : Descriptor} :
    d.Representable ↔ ¬d.IsSkipped ∧ ∃ kind, d.kind? = some kind ∧ kind.HasType Representable := by
  constructor
  · rintro (⟨hs, hk, hp⟩ | ⟨hs, hk, hv⟩ | ⟨hs, hk, hm, hc⟩)
    next kind =>
      refine ⟨hs, kind, hk, ?_⟩
      cases kind <;> trivial
    · exact ⟨hs, _, hk, hv⟩
    · exact ⟨hs, _, hk, _, hm, hc⟩
  · rintro ⟨hs, kind, hk, ht⟩
    cases kind with
    | staticValue value => exact .staticValue hs hk ht
    | union choices =>
      obtain ⟨choice, hm, hc⟩ := ht
      exact .union hs hk hm hc
    | _ => exact .plain hs hk rfl

theorem InlineFault.not_isSkipped {d : Descriptor} {fault : GenerateFault}
    (h : d.InlineFault fault) : ¬d.IsSkipped := by
  cases h <;> assumption

theorem InlineFault.not_representable {d : Descriptor} {fault : GenerateFault}
    (h : d.InlineFault fault) : ¬d.Representable := by
  rw [representable_iff]
  rintro ⟨-, kind, hkind, ht⟩
  cases h with
  | unclassifiable hs hk => cases hk.symm.trans hkind
  | invalidStaticValue hs hk hv =>
    cases hk.symm.trans hkind
    exact hv ht
  | emptyUnion hs hk hc =>
    cases hk.symm.trans hkind
    obtain ⟨choice, hm, hr⟩ := ht
    exact hc choice hm hr

theorem InlineFault.unique {d : Descriptor} {fault fault' : GenerateFault}
    (h : d.InlineFault fault) (h' : d.InlineFault fault') : fault = fault' := by
  cases h with
  | unclassifiable hs hk =>
    cases h' with
    | unclassifiable => rfl
    | invalidStaticValue _ hk' => cases hk.symm.trans hk'
    | emptyUnion _ hk' => cases hk.symm.trans hk'
  | invalidStaticValue hs hk hv =>
    cases h' with
    | unclassifiable _ hk' => cases hk.symm.trans hk'
    | invalidStaticValue _ hk' =>
      cases hk.symm.trans hk'
      rfl
    | emptyUnion _ hk' => cases hk.symm.trans hk'
  | emptyUnion hs hk hc =>
    cases h' with
    | unclassifiable _ hk' => cases hk.symm.trans hk'
    | invalidStaticValue _ hk' => cases hk.symm.trans hk'
    | emptyUnion => rfl

/-! ## Overrides -/

theorem overridden?_eq_none_iff {d : Descriptor} : d.overridden? = none ↔ d.IsSkipped := by
  unfold overridden? IsSkipped
  rcases d.override?_cases with h | h | ⟨h, -⟩ <;> rw [h]
  · exact ⟨nofun, nofun⟩
  · exact ⟨fun _ => rfl, fun _ => rfl⟩
  · exact ⟨nofun, nofun⟩

theorem identifier?_ne_none_of_reshaped {d : Descriptor} {replacement : Descriptor → Descriptor}
    (h : d.override? = some (.reshape replacement)) : d.identifier? ≠ none := by
  intro hnone
  unfold override? at h
  unfold identifier? at hnone
  cases hn : d.name <;> cases hi : d.id <;> simp [hn, hi] at h hnone

/-- Only a descriptor with an identifier is reshaped, and it keeps it. -/
theorem label_of_overridden {d d' : Descriptor} (h : d.overridden? = some d') :
    d'.label = d.label := by
  have hid := identifier?_of_overridden h
  unfold overridden? at h
  split at h
  · cases h
  next replacement hreshape =>
    unfold label
    rw [hid]
    cases hname : d.identifier? with
    | none => exact absurd hname (identifier?_ne_none_of_reshaped hreshape)
    | some name => rfl
  · cases h
    rfl

end Descriptor

/-! ## Kinds -/

theorem Json.literalType?_eq_none_iff {value : Json} :
    value.literalType? = none ↔ ¬value.IsScalar := by
  unfold Json.literalType? Json.IsScalar
  split
  · simp
  · simp
  · split <;> simp
  · simp
  · simp
  · simp
  · simp

namespace Descriptor

variable {inline : InlineTyping} {scope : Scope} {d : Descriptor} {kind : Kind} {context : Context}

/-- The nested descriptor has a type. -/
def Typed (inline : InlineTyping) (d : Descriptor) : Prop := (inline d).value.isSome = true

theorem types_eq_nil_iff {choices : List Descriptor} :
    (Reporting.collect inline choices).value = [] ↔ ∀ choice ∈ choices, ¬choice.Typed inline := by
  rw [Reporting.value_collect, List.filterMap_eq_nil_iff]
  simp [Typed]

/-! ### Unions -/

variable {choices : List Descriptor} {id : Option String}

theorem unionTyping_untyped
    (hid : (d.contextId (.unionWithoutId context) context).run = pure (.ok id))
    (hc : ∀ choice ∈ choices, ¬choice.Typed inline) :
    (d.unionTyping inline choices context).run.value = .error (.emptyUnion d.label) := by
  unfold unionTyping
  rw [ExceptT.run_bind, hid]
  simp only [pure_bind, ExceptT.run_bind, ExceptT.run_liftM, Reporting.value_bind,
    Reporting.value_map, types_eq_nil_iff.mpr hc]
  rfl

theorem unionTyping_typed
    (hid : (d.contextId (.unionWithoutId context) context).run = pure (.ok id))
    (hc : ∃ choice ∈ choices, choice.Typed inline) :
    ∃ types, (d.unionTyping inline choices context).run.value =
      .ok (id.elim (.type (.union types)) fun name =>
        .declaration (d.declared name (.alias (.union types)))) := by
  refine ⟨(Reporting.collect inline choices).value, ?_⟩
  unfold unionTyping
  rw [ExceptT.run_bind, hid]
  simp only [pure_bind, ExceptT.run_bind, ExceptT.run_liftM, Reporting.value_bind,
    Reporting.value_map]
  cases htypes : (Reporting.collect inline choices).value with
  | nil =>
    obtain ⟨choice, hm, ht⟩ := hc
    exact absurd ht (types_eq_nil_iff.mp htypes choice hm)
  | cons type types => cases id <;> rfl

/-! ### Inline -/

/-- Inline a kind with a type makes it. -/
theorem kindTyping_inline (ht : kind.HasType (Typed inline)) :
    ∃ type, (d.kindTyping inline scope kind .inline).run.value = .ok (.type type) := by
  cases kind with
  | function =>
    exact ⟨_, Signature.value_typing inline (d.slot_inline _) d.params d.callbackHandling⟩
  | union choices =>
    have hid : (d.contextId (.unionWithoutId .inline) .inline).run = pure (.ok none) := rfl
    obtain ⟨types, h⟩ := unionTyping_typed hid ht
    exact ⟨_, h⟩
  | staticValue value =>
    change ∃ type, (d.staticValueTyping value .inline).run.value = _
    unfold staticValueTyping
    cases hl : value.literalType? with
    | none => exact absurd ht (Json.literalType?_eq_none_iff.mp hl)
    | some type => exact ⟨type, rfl⟩
  | _ => exact ⟨_, rfl⟩

/-! ### Under a name -/

theorem contextId_run_some {name : String} (hid : d.id = some name) (hc : context ≠ .inline)
    (fault : GenerateFault) : (d.contextId fault context).run = pure (.ok (some name)) := by
  unfold contextId
  cases context with
  | inline => exact absurd rfl hc
  | _ => rw [hid]; rfl

theorem contextId_run_none (hid : d.id = none) (hc : context ≠ .inline)
    (fault : GenerateFault) : (d.contextId fault context).run = pure (.error fault) := by
  unfold contextId
  cases context with
  | inline => exact absurd rfl hc
  | _ => rw [hid]; rfl

theorem slot_run_some {name : String} (hid : d.identifier? = some name) (kind : String)
    (context : Context) : ∃ slot, (d.slot kind context).run = pure (.ok slot) := by
  unfold slot
  rw [hid]
  cases context <;> exact ⟨_, rfl⟩

theorem slot_run_none (hid : d.identifier? = none) (hc : context ≠ .inline) (kind : String) :
    (d.slot kind context).run = pure (.error (.missingIdentifier kind context)) := by
  unfold slot
  rw [hid]
  cases context with
  | inline => exact absurd rfl hc
  | _ => rfl

theorem typeOrAlias_some {name : String} (hid : d.id = some name) (hc : context ≠ .inline)
    (type : TypeExpr) (kind : String) :
    ∃ g, (d.typeOrAlias type kind context).run.value = .ok g := by
  unfold typeOrAlias
  rw [ExceptT.run_bind, contextId_run_some hid hc]
  exact ⟨_, rfl⟩

theorem typeOrAlias_none (hid : d.id = none) (hc : context ≠ .inline) (type : TypeExpr)
    (kind : String) :
    (d.typeOrAlias type kind context).run.value = .error (.missingIdentifier kind context) := by
  unfold typeOrAlias
  rw [ExceptT.run_bind, contextId_run_none hid hc]
  rfl

/-- Under its name a kind with a type is declared; only `null` has no declaration. -/
theorem kindTyping_named {name : String} (hc : context ≠ .inline)
    (hname : d.nameAs kind = some name) (hnull : kind ≠ .null)
    (ht : kind.HasType (Typed inline)) :
    ∃ g, (d.kindTyping inline scope kind context).run.value = .ok g := by
  cases kind with
  | null => exact absurd rfl hnull
  | function =>
    obtain ⟨slot, hslot⟩ := slot_run_some hname "function" context
    exact ⟨_, Signature.value_typing inline hslot d.params d.callbackHandling⟩
  | array items => exact typeOrAlias_some hname hc _ _
  | union choices =>
    obtain ⟨types, h⟩ := unionTyping_typed (contextId_run_some hname hc _) ht
    exact ⟨_, h⟩
  | reference target =>
    obtain ⟨slot, hslot⟩ := slot_run_some hname "reference" context
    change ∃ g, (d.referenceTyping target scope context).run.value = .ok g
    unfold referenceTyping
    rw [ExceptT.run_bind, hslot]
    exact ⟨_, rfl⟩
  | object =>
    change ∃ g, (ObjectTyping.typing inline d scope context).run.value = .ok g
    unfold ObjectTyping.typing
    rw [ExceptT.run_bind, contextId_run_some hname hc]
    exact ⟨_, rfl⟩
  | staticValue value =>
    obtain ⟨slot, hslot⟩ := slot_run_some hname "static-value" context
    change ∃ g, (d.staticValueTyping value context).run.value = .ok g
    unfold staticValueTyping
    cases hl : value.literalType? with
    | none => exact absurd ht (Json.literalType?_eq_none_iff.mp hl)
    | some type =>
      dsimp only
      rw [ExceptT.run_bind, hslot]
      exact ⟨_, rfl⟩
  | _ => exact typeOrAlias_some hname hc _ _

/-- A kind without its name fails. -/
theorem kindTyping_nameless (hc : context ≠ .inline) (hname : d.nameAs kind = none) :
    ∃ fault, (d.kindTyping inline scope kind context).run.value = .error fault := by
  cases kind with
  | null =>
    cases context with
    | inline => exact absurd rfl hc
    | _ => exact ⟨_, rfl⟩
  | function =>
    change ∃ fault, (Signature.typing inline d _ _ context).run.value = .error fault
    unfold Signature.typing
    rw [ExceptT.run_bind, slot_run_none hname hc]
    exact ⟨_, rfl⟩
  | array items => exact ⟨_, typeOrAlias_none hname hc _ _⟩
  | union choices =>
    change ∃ fault, (d.unionTyping inline choices context).run.value = .error fault
    unfold unionTyping
    rw [ExceptT.run_bind, contextId_run_none hname hc]
    exact ⟨_, rfl⟩
  | reference target =>
    change ∃ fault, (d.referenceTyping target scope context).run.value = .error fault
    unfold referenceTyping
    rw [ExceptT.run_bind, slot_run_none hname hc]
    exact ⟨_, rfl⟩
  | object =>
    change ∃ fault, (ObjectTyping.typing inline d scope context).run.value = .error fault
    unfold ObjectTyping.typing
    rw [ExceptT.run_bind, contextId_run_none hname hc]
    exact ⟨_, rfl⟩
  | staticValue value =>
    change ∃ fault, (d.staticValueTyping value context).run.value = .error fault
    unfold staticValueTyping
    cases hl : value.literalType? with
    | none => exact ⟨_, rfl⟩
    | some type =>
      dsimp only
      rw [ExceptT.run_bind, slot_run_none hname hc]
      exact ⟨_, rfl⟩
  | _ => exact ⟨_, typeOrAlias_none hname hc _ _⟩

/-- A kind without a type fails in every context. -/
theorem kindTyping_untyped (context : Context) (ht : ¬kind.HasType (Typed inline)) :
    ∃ fault, (d.kindTyping inline scope kind context).run.value = .error fault := by
  cases kind with
  | staticValue value =>
    change ∃ fault, (d.staticValueTyping value context).run.value = .error fault
    unfold staticValueTyping
    rw [Json.literalType?_eq_none_iff.mpr ht]
    exact ⟨_, rfl⟩
  | union choices =>
    have hall : ∀ choice ∈ choices, ¬choice.Typed inline := fun choice hm hc => ht ⟨choice, hm, hc⟩
    by_cases hcontext : context = .inline
    · subst hcontext
      exact ⟨_, unionTyping_untyped rfl hall⟩
    · cases hid : d.id with
      | none => exact kindTyping_nameless hcontext hid
      | some name => exact ⟨_, unionTyping_untyped (contextId_run_some hid hcontext _) hall⟩
  | _ => exact absurd trivial ht

theorem kindTyping_fails_iff (hc : context ≠ .inline) :
    (∃ fault, (d.kindTyping inline scope kind context).run.value = .error fault) ↔
      ¬kind.HasType (Typed inline) ∨ kind = .null ∨ d.nameAs kind = none := by
  constructor
  · rintro ⟨fault, hfault⟩
    by_cases ht : kind.HasType (Typed inline)
    · by_cases hnull : kind = .null
      · exact .inr (.inl hnull)
      · cases hname : d.nameAs kind with
        | none => exact .inr (.inr rfl)
        | some name =>
          obtain ⟨g, hg⟩ : ∃ g, (d.kindTyping inline scope kind context).run.value = .ok g :=
            kindTyping_named hc hname hnull ht
          cases hg.symm.trans hfault
    · exact .inl ht
  · rintro (ht | rfl | hname)
    · exact kindTyping_untyped context ht
    · cases context with
      | inline => exact absurd rfl hc
      | _ => exact ⟨_, rfl⟩
    · exact kindTyping_nameless hc hname

end Descriptor

/-! ## Unions go down -/

namespace Descriptor

theorem leadingKind?_ne_union (d : Descriptor) (choices : List Descriptor) :
    d.leadingKind? ≠ some (.union choices) := by
  unfold leadingKind?
  intro h
  split at h
  · cases h
  · cases h
  · cases h
  · cases hi : d.items <;> rw [hi] at h <;> cases h
  · cases h

theorem simpleKind?_ne_union (d : Descriptor) (choices : List Descriptor) :
    d.simpleKind? ≠ some (.union choices) := by
  unfold simpleKind?
  intro h
  split at h
  · split at h <;> cases h
  all_goals cases h

theorem choices_of_union {d : Descriptor} {choices : List Descriptor}
    (h : d.kind? = some (.union choices)) : d.choices = some choices := by
  unfold kind? at h
  cases hl : d.leadingKind? with
  | some kind =>
    rw [hl] at h
    exact absurd (hl.trans h) (d.leadingKind?_ne_union choices)
  | none =>
    rw [hl] at h
    cases hc : d.choices with
    | some choices' =>
      rw [hc] at h
      cases h
      rfl
    | none =>
      rw [hc] at h
      cases hr : d.reference <;> rw [hr] at h
      · cases hs : d.simpleKind? with
        | some kind =>
          rw [hs] at h
          exact absurd (hs.trans h) (d.simpleKind?_ne_union choices)
        | none =>
          rw [hs] at h
          cases hv : d.value <;> rw [hv] at h <;> cases h
      · cases h

theorem depth_lt_of_choices {d choice : Descriptor} {choices : List Descriptor}
    (h : d.choices = some choices) (hm : choice ∈ choices) : choice.depth < d.depth := by
  refine depth_lt_of_mem_children (List.mem_append_left _ ?_)
  rw [h]
  exact hm

/-! ## Outcomes -/

/-- The three ways in which the type of a descriptor can come out. -/
inductive InlineOutcome (d : Descriptor) : Except GenerateFault (Option Generated) → Prop
  | skipped (h : d.IsSkipped) : InlineOutcome d (.ok none)
  | typed (h : d.Representable) (type : TypeExpr) : InlineOutcome d (.ok (some (.type type)))
  | failed {fault : GenerateFault} (h : d.InlineFault fault) : InlineOutcome d (.error fault)

namespace InlineOutcome

variable {d : Descriptor} {outcome : Except GenerateFault (Option Generated)}

theorem skipped_iff (h : d.InlineOutcome outcome) : outcome = .ok none ↔ d.IsSkipped := by
  cases h with
  | skipped h => exact ⟨fun _ => h, fun _ => rfl⟩
  | typed h type => exact ⟨nofun, fun hs => absurd hs (representable_iff.mp h).1⟩
  | failed h => exact ⟨nofun, fun hs => absurd hs h.not_isSkipped⟩

theorem typed_iff (h : d.InlineOutcome outcome) :
    (∃ type, outcome = .ok (some (.type type))) ↔ d.Representable := by
  cases h with
  | skipped h => exact ⟨nofun, fun hr => absurd h (representable_iff.mp hr).1⟩
  | typed h type => exact ⟨fun _ => h, fun _ => ⟨type, rfl⟩⟩
  | failed h => exact ⟨nofun, fun hr => absurd hr h.not_representable⟩

theorem error_iff (h : d.InlineOutcome outcome) (fault : GenerateFault) :
    outcome = .error fault ↔ d.InlineFault fault := by
  cases h with
  | skipped h => exact ⟨nofun, fun hf => absurd h hf.not_isSkipped⟩
  | typed h type => exact ⟨nofun, fun hf => absurd h hf.not_representable⟩
  | failed h => exact ⟨fun he => Except.error.inj he ▸ h, fun hf => congrArg _ (h.unique hf)⟩

theorem fails_iff (h : d.InlineOutcome outcome) :
    (∃ fault, outcome = .error fault) ↔ ¬d.IsSkipped ∧ ¬d.Representable := by
  cases h with
  | skipped h => exact ⟨nofun, fun hn => absurd h hn.1⟩
  | typed h type => exact ⟨nofun, fun hn => absurd h hn.2⟩
  | failed h => exact ⟨fun _ => ⟨h.not_isSkipped, h.not_representable⟩, fun _ => ⟨_, rfl⟩⟩

theorem isSome_type?_iff (h : d.InlineOutcome outcome) :
    (outcome.toOption.join.bind Generated.type?).isSome = true ↔ d.Representable := by
  rw [← h.typed_iff]
  cases h with
  | skipped h => exact ⟨nofun, nofun⟩
  | typed h type => exact ⟨fun _ => ⟨type, rfl⟩, fun _ => rfl⟩
  | failed h => exact ⟨nofun, nofun⟩

end InlineOutcome

end Descriptor

namespace Scope

open Descriptor

/-! ## Attempts -/

variable {scope : Scope} {inline : InlineTyping} {d d' : Descriptor} {context : Context}

/-- The nested types tell which of the choices of a union have a type. -/
def Tells (inline : InlineTyping) (d : Descriptor) : Prop :=
  ∀ choices, d.kind? = some (.union choices) →
    ∀ choice ∈ choices, choice.Typed inline ↔ choice.Representable

theorem hasType_iff {kind : Kind} (h : Tells inline d) (hk : d.kind? = some kind) :
    kind.HasType (Typed inline) ↔ kind.HasType Representable := by
  cases kind with
  | union choices =>
    exact exists_congr fun choice => and_congr_right fun hm => h choices hk choice hm
  | _ => exact Iff.rfl

theorem value_typing_unclassifiable (ho : d.overridden? = some d') (hk : d.kind? = none)
    (context : Context) :
    (scope.typing inline d context).run.value = .error (.unclassifiable d.label) := by
  unfold typing
  rw [ho]
  dsimp only
  rw [kind?_of_overridden ho, hk, label_of_overridden ho]
  rfl

/-- One descriptor: it is skipped, or it makes a type, or there is the reason why not. -/
theorem typing_inlineOutcome (h : Tells inline d) :
    d.InlineOutcome (scope.typing inline d .inline).run.value := by
  cases ho : d.overridden? with
  | none =>
    rw [value_typing_skipped ho]
    exact .skipped (overridden?_eq_none_iff.mp ho)
  | some d' =>
    have hs : ¬d.IsSkipped := fun hs => nomatch ho.symm.trans (overridden?_eq_none_iff.mpr hs)
    cases hk : d.kind? with
    | none =>
      rw [value_typing_unclassifiable ho hk]
      exact .failed (.unclassifiable hs hk)
    | some kind =>
      rw [value_typing ho ((kind?_of_overridden ho).trans hk)]
      by_cases ht : kind.HasType (Typed inline)
      · obtain ⟨type, hvalue⟩ :
            ∃ type, (d'.kindTyping inline scope kind .inline).run.value = .ok (.type type) :=
          kindTyping_inline ht
        rw [hvalue]
        exact .typed (representable_iff.mpr ⟨hs, kind, hk, (hasType_iff h hk).mp ht⟩) type
      · cases kind with
        | staticValue value =>
          change d.InlineOutcome ((d'.staticValueTyping value .inline).run.value.map some)
          unfold staticValueTyping
          rw [Json.literalType?_eq_none_iff.mpr ht]
          exact .failed (.invalidStaticValue hs hk ht)
        | union choices =>
          have hvalue : (d'.kindTyping inline scope (.union choices) .inline).run.value =
              .error (.emptyUnion d.label) := by
            rw [← label_of_overridden ho]
            exact unionTyping_untyped rfl fun choice hm hc => ht ⟨choice, hm, hc⟩
          rw [hvalue]
          exact .failed (.emptyUnion hs hk fun choice hm hc =>
            ht ⟨choice, hm, (h choices hk choice hm).mpr hc⟩)
        | _ => exact absurd trivial ht

/-- Going down far enough, a descriptor has a type exactly if it is representable. The induction is
on the levels; only the choices of a union matter, and they are nested less deeply. -/
theorem typed_inlineWithin (scope : Scope) {levels : Nat} {d : Descriptor}
    (hd : d.depth ≤ levels) : d.Typed (scope.inlineWithin levels) ↔ d.Representable := by
  induction levels generalizing d with
  | zero => exact absurd d.depth_pos (Nat.not_lt.mpr hd)
  | succ levels ih =>
    have htells : Tells (scope.inlineWithin levels) d := fun choices hk choice hm =>
      ih (Nat.le_of_lt_succ (Nat.lt_of_lt_of_le (depth_lt_of_choices (choices_of_union hk) hm) hd))
    unfold Typed
    rw [inlineWithin, Reporting.value_bind, Reporting.value_pure, value_contain]
    exact (typing_inlineOutcome htells).isSome_type?_iff

theorem tells_depth (scope : Scope) (d : Descriptor) : Tells (scope.inlineWithin d.depth) d :=
  fun _ hk _ hm =>
    typed_inlineWithin scope (Nat.le_of_lt (depth_lt_of_choices (choices_of_union hk) hm))

theorem attempt_inlineOutcome (scope : Scope) (d : Descriptor) :
    d.InlineOutcome (scope.attempt d .inline).run.value :=
  typing_inlineOutcome (tells_depth scope d)

theorem nameAs_of_overridden (ho : d.overridden? = some d') (kind : Kind) :
    d'.nameAs kind = d.nameAs kind := by
  unfold nameAs
  rw [identifier?_of_overridden ho, id_of_overridden ho]

/-- Under a name generation fails for a missing type, for `null` and for a missing name. -/
theorem attempt_fails_iff (scope : Scope) (d : Descriptor) (hc : context ≠ .inline) :
    (∃ fault, (scope.attempt d context).run.value = .error fault) ↔
      ¬d.IsSkipped ∧ (¬d.Representable ∨ d.kind? = some .null ∨ d.LacksName) := by
  unfold attempt
  cases ho : d.overridden? with
  | none =>
    rw [value_typing_skipped ho]
    exact ⟨nofun, fun hn => absurd (overridden?_eq_none_iff.mp ho) hn.1⟩
  | some d' =>
    have hs : ¬d.IsSkipped := fun hs => nomatch ho.symm.trans (overridden?_eq_none_iff.mpr hs)
    cases hk : d.kind? with
    | none =>
      rw [value_typing_unclassifiable ho hk]
      refine ⟨fun _ => ⟨hs, .inl fun hr => ?_⟩, fun _ => ⟨_, rfl⟩⟩
      obtain ⟨-, kind, hkind, -⟩ := representable_iff.mp hr
      cases hk.symm.trans hkind
    | some kind =>
      rw [value_typing ho ((kind?_of_overridden ho).trans hk)]
      have hkind : (∃ fault, ((d'.kindTyping (scope.inlineWithin d.depth) scope kind
          context).run.value.map some) = .error fault) ↔
          ¬kind.HasType Representable ∨ kind = .null ∨ d.nameAs kind = none := by
        rw [← nameAs_of_overridden ho, ← hasType_iff (tells_depth scope d) hk,
          ← kindTyping_fails_iff hc]
        exact exists_congr fun fault => except_map_eq_error
      rw [hkind, representable_iff]
      simp [hs, LacksName, hk]

/-! ## Containment -/

theorem generate_of_error {fault : GenerateFault}
    (h : (scope.attempt d context).run.value = .error fault) :
    (scope.generate d context).value = none ∧
      (scope.generate d context).diagnostics = (scope.attempt d context).run.diagnostics ++
        [⟨.error, some scope.space, .failedTyping d.label context fault⟩] := by
  unfold generate contain
  rw [Reporting.value_bind, Reporting.diagnostics_bind, h]
  exact ⟨rfl, rfl⟩

theorem generate_of_ok {generated : Option Generated}
    (h : (scope.attempt d context).run.value = .ok generated) :
    (scope.generate d context).value = generated ∧
      (scope.generate d context).diagnostics = (scope.attempt d context).run.diagnostics := by
  unfold generate contain
  rw [Reporting.value_bind, Reporting.diagnostics_bind, h]
  exact ⟨rfl, List.append_nil _⟩

theorem attempt_of_isSkipped (scope : Scope) (h : d.IsSkipped) (context : Context) :
    (scope.attempt d context).run.value = .ok none ∧
      (scope.attempt d context).run.diagnostics = [] := by
  unfold attempt typing
  rw [overridden?_eq_none_iff.mpr h]
  exact ⟨rfl, rfl⟩

/-- What generating a descriptor comes to. -/
structure Outcomes (scope : Scope) (d : Descriptor) : Prop where
  /-- Inline there is no answer exactly for what is skipped. -/
  skipped_iff : (scope.attempt d .inline).run.value = .ok none ↔ d.IsSkipped
  /-- What is skipped reports nothing in any context. -/
  silent : d.IsSkipped → ∀ context, (scope.attempt d context).run.value = .ok none ∧
    (scope.attempt d context).run.diagnostics = []
  /-- Inline there is a type exactly for what is representable. -/
  typed_iff : (∃ type, (scope.attempt d .inline).run.value = .ok (some (.type type))) ↔
    d.Representable
  /-- Anything else fails. -/
  fails_iff : (∃ fault, (scope.attempt d .inline).run.value = .error fault) ↔
    ¬d.IsSkipped ∧ ¬d.Representable
  /-- The fault depends on the descriptor alone. -/
  fault_iff : ∀ fault, (scope.attempt d .inline).run.value = .error fault ↔ d.InlineFault fault
  /-- Under a name `null` and a descriptor without the name fail as well. -/
  named_iff : ∀ context, context ≠ .inline →
    ((∃ fault, (scope.attempt d context).run.value = .error fault) ↔
      ¬d.IsSkipped ∧ (¬d.Representable ∨ d.kind? = some .null ∨ d.LacksName))
  /-- A failure becomes one error behind what was reported so far, and no answer. -/
  contained : ∀ context fault, (scope.attempt d context).run.value = .error fault →
    (scope.generate d context).value = none ∧
      (scope.generate d context).diagnostics = (scope.attempt d context).run.diagnostics ++
        [⟨.error, some scope.space, .failedTyping d.label context fault⟩]
  /-- A success is handed on with nothing added. -/
  handedOn : ∀ context generated, (scope.attempt d context).run.value = .ok generated →
    (scope.generate d context).value = generated ∧
      (scope.generate d context).diagnostics = (scope.attempt d context).run.diagnostics

/-- **A descriptor fails exactly where it has no type**, or no name where it needs one, and every
failure is contained as one error. -/
theorem attempt_outcomes (scope : Scope) (d : Descriptor) : scope.Outcomes d where
  skipped_iff := (attempt_inlineOutcome scope d).skipped_iff
  silent := attempt_of_isSkipped scope
  typed_iff := (attempt_inlineOutcome scope d).typed_iff
  fails_iff := (attempt_inlineOutcome scope d).fails_iff
  fault_iff := (attempt_inlineOutcome scope d).error_iff
  named_iff := fun _ hc => attempt_fails_iff scope d hc
  contained := fun _ _ => generate_of_error
  handedOn := fun _ _ => generate_of_ok

end Scope

end SchemaTypings
