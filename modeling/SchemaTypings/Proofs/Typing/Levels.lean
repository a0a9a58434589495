import Mathlib.Logic.Function.Iterate
import SchemaTypings.Proofs.Typing.Part
import SchemaTypings.Proofs.Typing.Repeats

/-!
# Types without a limit

The type of a descriptor depends on the types of its parts and on nothing else, and the parts are nested
less deeply. An override may put one level more below a descriptor, but not below what it put there.
Hence the levels that a type may go down never run out, and the type is that of an unlimited recursion.

* `Scope.typing_congr`: types depend on the types of the parts.
* `Descriptor.Within`: the descriptors that need no more than a number of levels.
* `Scope.inlineRound`: one round of the recursion, in which the types of the parts are left open.
* `Scope.iterate_inlineRound`: enough rounds settle a type, whatever they begin with.
* `Scope.attempt_eq`: a descriptor is generated from the types of its parts.
-/

namespace SchemaTypings

/-! ## Types of parts -/

theorem Reporting.bind_congr_value {α β : Type} {x : Reporting α} {f g : α → Reporting β}
    (h : f x.value = g x.value) : x >>= f = x >>= g := by
  refine Reporting.ext ?_ ?_
  · rw [value_bind, value_bind, h]
  · rw [events_bind, events_bind, h]

variable {inline other : InlineTyping} {scope : Scope} {d : Descriptor}

namespace Signature

variable {ps : List Descriptor} {handling : CallbackHandling}

theorem typeOr_congr {fallback : TypeExpr} {d? : Option Descriptor}
    (h : ∀ e, d? = some e → inline e = other e) :
    typeOr inline fallback d? = typeOr other fallback d? := by
  cases d? with
  | none => rfl
  | some e => rw [typeOr, typeOr, h e rfl]

theorem returnType_congr (h : ∀ e, Part inline d ps handling e → inline e = other e) :
    returnType inline d ps handling = returnType other d ps handling := by
  have hown : typeOr inline (.keyword .void) (consumed? handling ps) =
      typeOr other (.keyword .void) (consumed? handling ps) :=
    typeOr_congr fun e he => h e (.result he)
  have hdeclared : declaredOr inline d (handedOver inline ps handling) =
      declaredOr other d (handedOver inline ps handling) := by
    unfold declaredOr
    split
    next hv => exact typeOr_congr fun e he => h e (.returned he hv)
    next => rfl
  -- what is declared matters only behind the type that is handed over
  unfold returnType
  rw [← hown]
  refine Reporting.bind_congr_value ?_
  rw [handedOver] at hdeclared
  rw [hdeclared]

theorem paramsFrom_congr {index : Nat} (h : ∀ p ∈ ps, inline p = other p) :
    paramsFrom inline index ps = paramsFrom other index ps := by
  induction ps generalizing index with
  | nil => rfl
  | cons p rest ih =>
    have hp := h p List.mem_cons_self
    rw [paramsFrom, paramsFrom, typeOr, typeOr, hp, ih fun q hq => h q (List.mem_cons_of_mem p hq)]

theorem typing_congr (h : ∀ e, Part inline d ps handling e → inline e = other e)
    (context : Context) :
    typing inline d ps handling context = typing other d ps handling context := by
  have hparams : params inline (visible handling ps) = params other (visible handling ps) :=
    paramsFrom_congr fun p hp => h p (.param hp)
  unfold typing
  dsimp only
  rw [returnType_congr h, hparams]

end Signature

namespace ObjectTyping

theorem methodMembers_congr {f : Descriptor} (hf : f ∈ d.functions.getD [])
    (h : ∀ e, Part inline d e → inline e = other e) :
    methodMembers inline scope d f = methodMembers other scope d f := by
  unfold methodMembers
  split
  next => rfl
  next hs =>
    unfold expandMethod
    cases hg : f.overridden? with
    | none => rfl
    | some g =>
      refine Reporting.collect_congr fun ps hps => ?_
      unfold methodSignature
      rw [Signature.typing_congr fun e he =>
        h e (.method hf (Bool.eq_false_iff.mpr hs) hg hps he)]

theorem members_congr (h : ∀ e, Part inline d e → inline e = other e) :
    members inline scope d = members other scope d := by
  have hproperties : Reporting.collect (propertyMember inline scope d) (d.properties.getD []) =
      Reporting.collect (propertyMember other scope d) (d.properties.getD []) := by
    refine Reporting.collect_congr fun entry he => ?_
    have hentry := h entry.2 (.property he)
    unfold propertyMember
    dsimp only
    rw [hentry]
  have hmethods : Reporting.collectAll (methodMembers inline scope d) (d.functions.getD []) =
      Reporting.collectAll (methodMembers other scope d) (d.functions.getD []) :=
    Reporting.collectAll_congr fun f hf => methodMembers_congr hf h
  have hpatterns : Reporting.collect (patternType inline scope d) (d.patternProperties.getD []) =
      Reporting.collect (patternType other scope d) (d.patternProperties.getD []) := by
    refine Reporting.collect_congr fun entry he => ?_
    have hentry := h entry.2 (.pattern he)
    unfold patternType
    dsimp only
    rw [hentry]
  unfold members
  rw [hproperties, hmethods, hpatterns]

theorem additionalType_congr (h : ∀ e, Part inline d e → inline e = other e) :
    additionalType inline d = additionalType other d := by
  unfold additionalType
  split
  · rfl
  · rfl
  · rfl
  next schema hs => rw [h schema (.additional hs)]

end ObjectTyping

/-- One case for each kind: nothing but the types of the parts matters. -/
theorem Descriptor.kindTyping_congr {kind : Kind} (hk : d.kind? = some kind)
    (h : ∀ e, d.Part inline e → inline e = other e) (context : Context) :
    d.kindTyping inline scope kind context = d.kindTyping other scope kind context := by
  cases kind with
  | function => exact Signature.typing_congr (fun e he => h e (.signature hk he)) context
  | array items =>
    change d.arrayTyping inline items context = d.arrayTyping other items context
    unfold arrayTyping
    rw [h items (.item hk)]
  | union choices =>
    have hchoices : Reporting.collect inline choices = Reporting.collect other choices :=
      Reporting.collect_congr fun e he => h e (.choice hk he)
    change d.unionTyping inline choices context = d.unionTyping other choices context
    unfold unionTyping
    rw [hchoices]
  | object =>
    change ObjectTyping.typing inline d scope context = ObjectTyping.typing other d scope context
    unfold ObjectTyping.typing
    rw [ObjectTyping.members_congr fun e he => h e (.member hk he),
      ObjectTyping.additionalType_congr fun e he => h e (.member hk he)]
  | null | any | boolean | integer | number | string | enumString | reference | staticValue => rfl

/-- **The type of a descriptor depends on the types of its parts only.** -/
theorem Scope.typing_congr
    (h : ∀ d', d.overridden? = some d' → ∀ e, d'.Part inline e → inline e = other e)
    (context : Context) : scope.typing inline d context = scope.typing other d context := by
  unfold typing
  cases ho : d.overridden? with
  | none => rfl
  | some d' =>
    dsimp only
    cases hk : d'.kind? with
    | none => rfl
    | some kind => exact congrArg (some <$> ·) (Descriptor.kindTyping_congr hk (h d' ho) context)

/-! ## Where parts stand -/

namespace Descriptor

/-- The same descriptor without its parameters. -/
def bare (d : Descriptor) : Descriptor := { d with parameters := none }

theorem mem_children_bare {c : Descriptor} :
    c ∈ d.bare.children ↔ c ∈ d.choices.getD [] ∨ c ∈ d.items.toList ∨
      c ∈ (d.properties.getD []).map (·.2) ∨ c ∈ (d.patternProperties.getD []).map (·.2) ∨
        c ∈ d.additional?.toList ∨ c ∈ d.functions.getD [] ∨ c ∈ d.extraParams ∨
          c ∈ d.returns.toList := by
  have hparams : d.bare.params = [] := rfl
  unfold children
  rw [hparams]
  simp only [List.mem_append, List.not_mem_nil, false_or]
  rfl

theorem mem_children_of_bare {c : Descriptor} (h : c ∈ d.bare.children) : c ∈ d.children := by
  rw [mem_children_bare] at h
  simp only [children, List.mem_append]
  grind

theorem bare_overridden {d' : Descriptor} (h : d.overridden? = some d') : d'.bare = d.bare := by
  rcases eq_of_overridden h with rfl | rfl <;> rfl

theorem bare_asResponder (d : Descriptor) : d.asResponder.bare = d.bare := by
  unfold asResponder
  split <;> rfl

theorem mem_children_of_params {p : Descriptor} (h : p ∈ d.params) : p ∈ d.children := by
  simp only [children, List.mem_append, h, true_or, or_true]

/-- What a method asks for, once the overrides are applied to it. -/
def MethodPart (inline : InlineTyping) (f e : Descriptor) : Prop :=
  ∃ g, f.overridden? = some g ∧
    ∃ ps ∈ Variants.all g.params, Signature.Part inline g ps .consume e

/-- A part stands at the parameters, or it is another child or stands in a method. -/
theorem Part.cases_place {e : Descriptor} (h : d.Part inline e) :
    (∃ p ∈ d.params, e = p ∨ e ∈ p.params) ∨
      ∃ c ∈ d.bare.children, e = c ∨ c.MethodPart inline e := by
  have hchild : e ∈ d.bare.children → (∃ p ∈ d.params, e = p ∨ e ∈ p.params) ∨
      ∃ c ∈ d.bare.children, e = c ∨ c.MethodPart inline e := fun he => .inr ⟨e, he, .inl rfl⟩
  rw [mem_children_bare] at hchild
  cases h with
  | item hk => exact hchild (.inr (.inl (by rw [items_of_array hk]; exact List.mem_singleton_self _)))
  | choice hk he => exact hchild (.inl (by rw [choices_of_union hk]; exact he))
  | signature hk he =>
    rcases he.cases_place with hreturns | hparams
    · exact hchild (by simp [hreturns])
    · exact .inl hparams
  | member hk he =>
    cases he with
    | property he => exact hchild (.inr (.inr (.inl (List.mem_map_of_mem he))))
    | pattern he => exact hchild (.inr (.inr (.inr (.inl (List.mem_map_of_mem he)))))
    | additional he => exact hchild (by simp [additional?, he])
    | method hf hs hg hps he =>
      refine .inr ⟨_, ?_, .inr ⟨_, hg, _, hps, he⟩⟩
      rw [mem_children_bare]
      simp only [hf, true_or, or_true]

/-! ## Levels that suffice -/

/-- The descriptors whose types need no more than the given number of levels and one. -/
inductive Within (n : Nat) : Descriptor → Prop
  /-- One that is nested no deeper, -/
  | plain {d : Descriptor} (h : d.depth ≤ n) : Within n d
  /-- the same with the response parameter put below it, -/
  | responder {d : Descriptor} (h : d.depth ≤ n) : Within n d.asResponder
  /-- and one with nothing below it. -/
  | leaf {d : Descriptor} (h : d.children = []) : Within n d

variable {n : Nat} {e : Descriptor}

theorem depth_withOptional (d : Descriptor) (on : Bool) : (d.withOptional on).depth = d.depth := by
  rw [depth_eq, depth_eq d]
  rfl

theorem withOptional_asResponder (d : Descriptor) (on : Bool) :
    d.asResponder.withOptional on = (d.withOptional on).asResponder := by
  unfold asResponder withOptional
  dsimp only
  split <;> rfl

theorem Within.withOptional (h : d.Within n) (on : Bool) : (d.withOptional on).Within n := by
  cases h with
  | plain h => exact .plain ((depth_withOptional d on).symm ▸ h)
  | @responder d h =>
    rw [withOptional_asResponder]
    exact .responder ((depth_withOptional d on).symm ▸ h)
  | leaf h => exact .leaf h

theorem mem_params_asResponder {p : Descriptor} (h : p ∈ d.asResponder.params) :
    p ∈ d.params ∨ p = responseParameter := by
  unfold asResponder at h
  split at h
  · exact .inr (List.mem_singleton.mp h)
  · exact .inl h

theorem Within.param {p : Descriptor} (h : d.Within n) (hp : p ∈ d.params) : p.Within n := by
  have hlow : ∀ {b : Descriptor}, b.depth ≤ n → p ∈ b.params → p.Within n := fun hb hp =>
    .plain (Nat.le_trans (Nat.le_of_lt (depth_lt_of_mem_children (mem_children_of_params hp))) hb)
  cases h with
  | plain h => exact hlow h hp
  | responder h =>
    rcases mem_params_asResponder hp with hp | rfl
    · exact hlow h hp
    · exact .leaf rfl
  | leaf h =>
    have hmem := mem_children_of_params hp
    rw [h] at hmem
    exact absurd hmem List.not_mem_nil

theorem Within.variant {params ps : List Descriptor} (h : ∀ p ∈ params, p.Within n)
    (hps : ps ∈ Variants.all params) : ∀ p ∈ ps, p.Within n := by
  intro p hp
  obtain ⟨q, hq, rfl | rfl⟩ := Scope.mem_variant hps hp
  · exact h p hq
  · exact (h q hq).withOptional false

theorem Within.signature {ps : List Descriptor} {handling : CallbackHandling}
    (hps : ∀ p ∈ ps, p.Within n) (hreturns : ∀ e, d.returns = some e → e.Within n)
    (h : Signature.Part inline d ps handling e) : e.Within n := by
  rcases h.cases_place with h | ⟨p, hp, rfl | he⟩
  · exact hreturns e h
  · exact hps e hp
  · exact (hps p hp).param he

theorem exists_depth_eq (d : Descriptor) : ∃ n, d.depth = n + 1 :=
  Nat.exists_eq_add_one_of_ne_zero (Nat.ne_of_gt d.depth_pos)

/-- What stands below a descriptor: the response parameter, or something nested less deeply. -/
structure Low (n : Nat) (d : Descriptor) : Prop where
  params : ∀ p ∈ d.params, p.depth ≤ n ∨ p = responseParameter
  others : ∀ c ∈ d.bare.children, c.depth ≤ n

theorem low_of_depth_le (h : d.depth ≤ n + 1) : d.Low n where
  params _ hp :=
    .inl (Nat.le_of_lt_succ (Nat.lt_of_lt_of_le (depth_lt_of_mem_children (mem_children_of_params hp)) h))
  others _ hc :=
    Nat.le_of_lt_succ (Nat.lt_of_lt_of_le (depth_lt_of_mem_children (mem_children_of_bare hc)) h)

theorem Low.asResponder (h : d.Low n) : d.asResponder.Low n where
  params p hp := (mem_params_asResponder hp).elim (h.params p) .inr
  others c hc := h.others c (d.bare_asResponder ▸ hc)

theorem Within.low (h : d.Within (n + 1)) : d.Low n := by
  cases h with
  | plain h => exact low_of_depth_le h
  | responder h => exact (low_of_depth_le h).asResponder
  | leaf h =>
    have hnone : ∀ c, c ∉ d.children := fun c hc => List.not_mem_nil (h ▸ hc)
    exact ⟨fun p hp => absurd (mem_children_of_params hp) (hnone p),
      fun c hc => absurd (mem_children_of_bare hc) (hnone c)⟩

/-- An override puts the response parameter one level down, where nothing overrides it again. -/
theorem Low.param_overridden {d' p : Descriptor} (h : d.Low n) (ho : d.overridden? = some d')
    (hp : p ∈ d'.params) : p.Within n := by
  rcases eq_of_overridden ho with rfl | rfl
  · rcases h.params p hp with hlow | rfl
    · exact .plain hlow
    · exact .leaf rfl
  · rw [params_reshapeResponders] at hp
    obtain ⟨q, hq, rfl⟩ := List.mem_map.mp hp
    rcases h.params q hq with hlow | rfl
    · exact .responder hlow
    · -- the response parameter is no response callback itself
      exact .leaf rfl

theorem Low.other_overridden {d' : Descriptor} (h : d.Low n) (ho : d.overridden? = some d')
    (he : e ∈ d'.bare.children) : e.Within n :=
  .plain (h.others e (bare_overridden ho ▸ he))

theorem Low.returns_overridden {d' : Descriptor} (h : d.Low n) (ho : d.overridden? = some d')
    (he : d'.returns = some e) : e.Within n :=
  h.other_overridden ho (mem_children_bare.mpr (by simp [he]))

theorem within_of_methodPart {f : Descriptor} (hf : f.depth ≤ n) (h : f.MethodPart inline e) :
    e.Within n := by
  obtain ⟨g, hg, ps, hps, he⟩ := h
  have hlow : f.Low n := low_of_depth_le (Nat.le_succ_of_le hf)
  exact Within.signature (Within.variant (fun p hp => hlow.param_overridden hg hp) hps)
    (fun e hreturns => hlow.returns_overridden hg hreturns) he

/-- **The parts of a descriptor need one level less.** -/
theorem Within.part {d' : Descriptor} (h : d.Within (n + 1)) (ho : d.overridden? = some d')
    (he : d'.Part inline e) : e.Within n := by
  have hother : ∀ c ∈ d'.bare.children, c.depth ≤ n := bare_overridden ho ▸ h.low.others
  rcases he.cases_place with ⟨p, hp, rfl | he⟩ | ⟨c, hc, rfl | hm⟩
  · exact h.low.param_overridden ho hp
  · exact (h.low.param_overridden ho hp).param he
  · exact .plain (hother e hc)
  · exact within_of_methodPart (hother c hc) hm

theorem Within.children_eq_nil (h : d.Within 0) : d.children = [] := by
  cases h with
  | plain h => exact absurd d.depth_pos (Nat.not_lt.mpr h)
  | @responder d h => exact absurd d.depth_pos (Nat.not_lt.mpr h)
  | leaf h => exact h

/-- A descriptor with nothing below it has no parts. -/
theorem not_part_of_leaf {d' : Descriptor} (h : d.children = []) (ho : d.overridden? = some d') :
    ¬d'.Part inline e := by
  have hnone : ∀ c, c ∉ d.children := fun c hc => List.not_mem_nil (h ▸ hc)
  intro he
  rcases he.cases_place with ⟨p, hp, -⟩ | ⟨c, hc, -⟩
  · rcases eq_of_overridden ho with rfl | rfl
    · exact hnone p (mem_children_of_params hp)
    · rw [params_reshapeResponders] at hp
      obtain ⟨q, hq, -⟩ := List.mem_map.mp hp
      exact hnone q (mem_children_of_params hq)
  · rw [bare_overridden ho] at hc
    exact hnone c (mem_children_of_bare hc)

end Descriptor

namespace Scope

open Descriptor (Within)

/-! ## No limit -/

/-- One round of the recursion: the type of a descriptor, given those of others. -/
def inlineRound (scope : Scope) (inline : InlineTyping) : InlineTyping := fun d => do
  let generated ← scope.contain d .inline (scope.typing inline d .inline)
  pure (generated.bind Generated.type?)

/-- Each level is a round. -/
theorem inlineWithin_eq_iterate (scope : Scope) (levels : Nat) :
    scope.inlineWithin levels = scope.inlineRound^[levels] fun _ => pure none := by
  induction levels with
  | zero => rfl
  | succ levels ih =>
    rw [Function.iterate_succ_apply', ← ih]
    rfl

/-- It does not matter what enough rounds begin with, nor how many more there are. The induction is on the
levels that suffice: the parts need one level less. -/
theorem iterate_inlineRound_congr (scope : Scope) (first second : InlineTyping) {n k l : Nat}
    {d : Descriptor} (h : d.Within n) (hk : n < k) (hl : n < l) :
    scope.inlineRound^[k] first d = scope.inlineRound^[l] second d := by
  induction n generalizing d k l with
  | zero =>
    obtain ⟨k, rfl⟩ := Nat.exists_eq_add_one_of_ne_zero (Nat.ne_of_gt hk)
    obtain ⟨l, rfl⟩ := Nat.exists_eq_add_one_of_ne_zero (Nat.ne_of_gt hl)
    have hparts : scope.typing (scope.inlineRound^[k] first) d .inline =
        scope.typing (scope.inlineRound^[l] second) d .inline :=
      typing_congr (fun d' ho e he =>
        absurd he (Descriptor.not_part_of_leaf h.children_eq_nil ho)) .inline
    rw [Function.iterate_succ_apply', Function.iterate_succ_apply', inlineRound, hparts, inlineRound]
  | succ n ih =>
    obtain ⟨k, rfl⟩ := Nat.exists_eq_add_one_of_ne_zero (Nat.ne_of_gt (Nat.zero_lt_of_lt hk))
    obtain ⟨l, rfl⟩ := Nat.exists_eq_add_one_of_ne_zero (Nat.ne_of_gt (Nat.zero_lt_of_lt hl))
    have hparts : scope.typing (scope.inlineRound^[k] first) d .inline =
        scope.typing (scope.inlineRound^[l] second) d .inline :=
      typing_congr (fun d' ho e he => ih (h.part ho he) (Nat.lt_of_succ_lt_succ hk)
        (Nat.lt_of_succ_lt_succ hl)) .inline
    rw [Function.iterate_succ_apply', Function.iterate_succ_apply', inlineRound, hparts, inlineRound]

/-- The rounds come to the type of a descriptor that needs no more levels. -/
theorem iterate_inlineRound (scope : Scope) (beyond : InlineTyping) {n rounds : Nat}
    {d : Descriptor} (h : d.Within n) (hn : n < rounds) :
    scope.inlineRound^[rounds] beyond d = scope.inlineType d := by
  have hplain : d.Within d.depth := .plain (Nat.le_refl d.depth)
  calc scope.inlineRound^[rounds] beyond d
      = scope.inlineRound^[max n d.depth + 1] beyond d :=
        scope.iterate_inlineRound_congr beyond beyond h hn
          (Nat.lt_succ_of_le (Nat.le_max_left n d.depth))
    _ = scope.inlineRound^[d.depth + 1] (fun _ => pure none) d :=
        scope.iterate_inlineRound_congr beyond _ hplain
          (Nat.lt_succ_of_le (Nat.le_max_right n d.depth)) (Nat.lt_succ_self d.depth)
    _ = scope.inlineType d := by
        rw [← inlineWithin_eq_iterate]
        rfl

/-- **A descriptor is generated from the types of its parts**, each of which is generated in the same
way. -/
theorem attempt_eq (scope : Scope) (d : Descriptor) (context : Context) :
    scope.attempt d context = scope.typing scope.inlineType d context := by
  obtain ⟨n, hn⟩ := d.exists_depth_eq
  unfold attempt
  refine typing_congr (fun d' ho e he => ?_) context
  have hwithin : d.Within (n + 1) := .plain (Nat.le_of_eq hn)
  rw [hn, inlineWithin_eq_iterate,
    scope.iterate_inlineRound _ (hwithin.part ho he) (Nat.lt_succ_self n)]

end Scope

end SchemaTypings
