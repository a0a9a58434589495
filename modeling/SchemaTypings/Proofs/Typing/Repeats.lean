import SchemaTypings.Proofs.Typing.Danglings
import SchemaTypings.Proofs.Typing.Part
import SchemaTypings.Proofs.Variants.Positions

/-!
# What a type comes by is there

A type comes by no descriptor twice as long as no method on the way has several signatures: then there are
at most as many dangling references among what it comes by as there are in the descriptor.

* `Scope.SingleMethods`: every method with a dangling reference in it has a single signature.
* `Scope.danglingsIn_asked`: what is asked for stands at different places below the descriptor.
* `Scope.danglings_visited_le`: the statement for a type.
-/

namespace SchemaTypings

/-! ## Kinds -/

namespace Descriptor

theorem simpleKind?_ne_array (d items : Descriptor) : d.simpleKind? ≠ some (.array items) := by
  unfold simpleKind?
  intro h
  split at h
  · split at h <;> cases h
  all_goals cases h

theorem items_of_leadingKind? {d items : Descriptor} (h : d.leadingKind? = some (.array items)) :
    d.items = some items := by
  unfold leadingKind? at h
  split at h
  · cases h
  · cases h
  · cases h
  · cases hi : d.items with
    | none =>
      rw [hi] at h
      cases h
    | some other =>
      rw [hi] at h
      cases h
      rfl
  · cases h

theorem items_of_array {d items : Descriptor} (h : d.kind? = some (.array items)) :
    d.items = some items := by
  cases hl : d.leadingKind? with
  | some kind =>
    unfold kind? at h
    rw [hl] at h
    exact items_of_leadingKind? (hl.trans h)
  | none =>
    unfold kind? at h
    rw [hl] at h
    cases hc : d.choices with
    | some choices =>
      rw [hc] at h
      cases h
    | none =>
      rw [hc] at h
      cases hr : d.reference <;> rw [hr] at h
      · cases hs : d.simpleKind? with
        | some kind =>
          rw [hs] at h
          exact absurd (hs.trans h) (d.simpleKind?_ne_array items)
        | none =>
          rw [hs] at h
          cases hv : d.value <;> rw [hv] at h <;> cases h
      · cases h

end Descriptor

namespace Scope

variable {scope : Scope} {inline : InlineTyping}

/-! ## Dangling references in a tree -/

/-- How many dangling references there are in some descriptors, at any depth. -/
def danglingsIn (scope : Scope) (ds : List Descriptor) : Nat :=
  scope.danglings (ds.flatMap Descriptor.nodes)

theorem danglingsIn_nil (scope : Scope) : scope.danglingsIn [] = 0 := rfl

theorem danglingsIn_append (scope : Scope) (first second : List Descriptor) :
    scope.danglingsIn (first ++ second) = scope.danglingsIn first + scope.danglingsIn second := by
  unfold danglingsIn
  rw [List.flatMap_append, danglings_append]

theorem danglingsIn_cons (scope : Scope) (d : Descriptor) (ds : List Descriptor) :
    scope.danglingsIn (d :: ds) = scope.danglingsIn [d] + scope.danglingsIn ds :=
  scope.danglingsIn_append [d] ds

theorem danglingsIn_singleton (scope : Scope) (d : Descriptor) :
    scope.danglingsIn [d] = scope.danglings d.nodes := by
  unfold danglingsIn
  rw [List.flatMap_singleton]

/-- A tree is its root and what is below. -/
theorem danglingsIn_eq (scope : Scope) (d : Descriptor) :
    scope.danglingsIn [d] = scope.danglings [d] + scope.danglingsIn d.children := by
  rw [danglingsIn_singleton, Descriptor.nodes_eq, danglings_cons]
  rfl

theorem danglingsIn_sublist {first second : List Descriptor} (h : first.Sublist second) :
    scope.danglingsIn first ≤ scope.danglingsIn second := by
  induction h with
  | slnil => exact Nat.le_refl 0
  | @cons _ rest d _ ih =>
    rw [scope.danglingsIn_cons d rest]
    omega
  | @cons_cons kept rest d _ ih =>
    rw [scope.danglingsIn_cons d kept, scope.danglingsIn_cons d rest]
    omega

theorem danglingsIn_children_le (scope : Scope) (d : Descriptor) :
    scope.danglingsIn d.children ≤ scope.danglingsIn [d] := by
  rw [danglingsIn_eq]
  omega

/-- A run over descriptors comes by at most what is in them if each of its steps does. -/
theorem danglings_flatMap_le {ds : List Descriptor} {visits : Descriptor → List Descriptor}
    (h : ∀ d ∈ ds, scope.danglings (visits d) ≤ scope.danglingsIn [d]) :
    scope.danglings (ds.flatMap visits) ≤ scope.danglingsIn ds := by
  induction ds with
  | nil => exact Nat.le_refl 0
  | cons d rest ih =>
    have hfirst := h d List.mem_cons_self
    have hrest := ih fun e he => h e (List.mem_cons_of_mem d he)
    rw [List.flatMap_cons, danglings_append, danglingsIn_cons]
    omega

theorem danglingsIn_flatMap_le {ds : List Descriptor} {asked : Descriptor → List Descriptor}
    (h : ∀ d ∈ ds, scope.danglingsIn (asked d) ≤ scope.danglingsIn [d]) :
    scope.danglingsIn (ds.flatMap asked) ≤ scope.danglingsIn ds := by
  induction ds with
  | nil => exact Nat.le_refl 0
  | cons d rest ih =>
    have hfirst := h d List.mem_cons_self
    have hrest := ih fun e he => h e (List.mem_cons_of_mem d he)
    rw [List.flatMap_cons, danglingsIn_append, danglingsIn_cons]
    omega

/-! ## Optional markers and overrides -/

theorem danglingsIn_withOptional (scope : Scope) (d : Descriptor) (on : Bool) :
    scope.danglingsIn [d.withOptional on] = scope.danglingsIn [d] := by
  rw [danglingsIn_eq, danglingsIn_eq]
  rfl

theorem danglingsIn_map_withOptional (scope : Scope) (ds : List Descriptor) (on : Bool) :
    scope.danglingsIn (ds.map (·.withOptional on)) = scope.danglingsIn ds := by
  induction ds with
  | nil => rfl
  | cons d rest ih =>
    rw [List.map_cons, danglingsIn_cons, danglingsIn_cons scope d, ih, danglingsIn_withOptional]

theorem danglingsIn_responseParameter (scope : Scope) :
    scope.danglingsIn [Descriptor.responseParameter] = 0 := rfl

/-- The parts of the children by the key they stand under. -/
theorem danglingsIn_children (scope : Scope) (d : Descriptor) :
    scope.danglingsIn d.children =
      scope.danglingsIn (d.choices.getD []) + scope.danglingsIn d.items.toList +
        scope.danglingsIn ((d.properties.getD []).map (·.2)) +
        scope.danglingsIn ((d.patternProperties.getD []).map (·.2)) +
        scope.danglingsIn d.additional?.toList + scope.danglingsIn (d.functions.getD []) +
        scope.danglingsIn d.params + scope.danglingsIn d.extraParams +
        scope.danglingsIn d.returns.toList := by
  unfold Descriptor.children
  simp only [danglingsIn_append]
  omega

/-- Other parameters in a descriptor count with what is in them. -/
theorem danglingsIn_parameters (d : Descriptor) {ps : Option (List Descriptor)}
    (h : scope.danglingsIn (ps.getD []) ≤ scope.danglingsIn d.params) :
    scope.danglingsIn [{ d with parameters := ps }] ≤ scope.danglingsIn [d] := by
  have hself : scope.danglings [{ d with parameters := ps }] = scope.danglings [d] := rfl
  have hbelow : scope.danglingsIn (Descriptor.children { d with parameters := ps }) ≤
      scope.danglingsIn d.children := by
    rw [scope.danglingsIn_children d, danglingsIn_children]
    simp only [Descriptor.params, Descriptor.extraParams, Descriptor.additional?] at h ⊢
    omega
  rw [danglingsIn_eq, scope.danglingsIn_eq d, hself]
  omega

theorem danglingsIn_asResponder (scope : Scope) (d : Descriptor) :
    scope.danglingsIn [d.asResponder] ≤ scope.danglingsIn [d] := by
  unfold Descriptor.asResponder
  split
  · apply danglingsIn_parameters
    show scope.danglingsIn [Descriptor.responseParameter] ≤ _
    rw [danglingsIn_responseParameter]
    omega
  · exact Nat.le_refl _

theorem danglingsIn_overridden (scope : Scope) {d d' : Descriptor} (h : d.overridden? = some d') :
    scope.danglingsIn [d'] ≤ scope.danglingsIn [d] := by
  rcases Descriptor.eq_of_overridden h with rfl | rfl
  · exact Nat.le_refl _
  · apply danglingsIn_parameters
    unfold Descriptor.params
    cases d.parameters with
    | none => exact Nat.le_refl 0
    | some ps =>
      show scope.danglingsIn (ps.map Descriptor.asResponder) ≤ scope.danglingsIn ps
      rw [List.map_eq_flatMap]
      exact danglingsIn_flatMap_le fun p _ => scope.danglingsIn_asResponder p

/-! ## Variants -/

theorem danglingsIn_variantFrom (scope : Scope) (keep : Nat → Bool) (rank : Nat)
    (ps : List Descriptor) :
    scope.danglingsIn (Variants.variantFrom keep rank ps) ≤ scope.danglingsIn ps := by
  induction ps generalizing rank with
  | nil => exact Nat.le_refl 0
  | cons p rest ih =>
    rw [Variants.variantFrom, scope.danglingsIn_cons p]
    have hnext := ih (rank + 1)
    have hsame := ih rank
    split
    · dsimp only
      split
      · rw [danglingsIn_cons, danglingsIn_withOptional]
        omega
      · omega
    · rw [danglingsIn_cons]
      omega

theorem danglingsIn_variant (scope : Scope) {params ps : List Descriptor}
    (h : ps ∈ Variants.all params) :
    scope.danglingsIn ps ≤ scope.danglingsIn params := by
  rw [Variants.all_eq_map] at h
  obtain ⟨number, -, rfl⟩ := List.mem_map.mp h
  exact scope.danglingsIn_variantFrom (Variants.pattern number) 0 params

/-- A parameter of a variant is one of the list, mandatory or as it is. -/
theorem mem_variantFrom {keep : Nat → Bool} {rank : Nat} {ps : List Descriptor} {q : Descriptor}
    (h : q ∈ Variants.variantFrom keep rank ps) : ∃ p ∈ ps, q = p ∨ q = p.withOptional false := by
  induction ps generalizing rank with
  | nil => cases h
  | cons p rest ih =>
    have hrest : ∀ {rank : Nat}, q ∈ Variants.variantFrom keep rank rest →
        ∃ p' ∈ p :: rest, q = p' ∨ q = p'.withOptional false := by
      intro rank hq
      obtain ⟨p', hp', hq⟩ := ih hq
      exact ⟨p', List.mem_cons_of_mem p hp', hq⟩
    rw [Variants.variantFrom] at h
    split at h
    · dsimp only at h
      split at h
      · rcases List.mem_cons.mp h with rfl | h
        · exact ⟨p, List.mem_cons_self, .inr rfl⟩
        · exact hrest h
      · exact hrest h
    · rcases List.mem_cons.mp h with rfl | h
      · exact ⟨q, List.mem_cons_self, .inl rfl⟩
      · exact hrest h

theorem mem_variant {params ps : List Descriptor} {q : Descriptor} (h : ps ∈ Variants.all params)
    (hq : q ∈ ps) : ∃ p ∈ params, q = p ∨ q = p.withOptional false := by
  rw [Variants.all_eq_map] at h
  obtain ⟨number, -, rfl⟩ := List.mem_map.mp h
  exact mem_variantFrom hq

/-! ## Signatures -/

/-- The result of the callback and the visible parameters stand in different parameters. -/
theorem danglingsIn_visible (scope : Scope) (handling : CallbackHandling) (ps : List Descriptor) :
    scope.danglingsIn (Signature.consumed? handling ps).toList +
      scope.danglingsIn (Signature.visible handling ps) ≤ scope.danglingsIn ps := by
  cases handling with
  | keep =>
    show scope.danglingsIn [] + scope.danglingsIn ps ≤ scope.danglingsIn ps
    rw [danglingsIn_nil]
    omega
  | consume =>
    show scope.danglingsIn (Signature.resultParameter? ps).toList +
      scope.danglingsIn (ps.filter fun p => !p.isCallback) ≤ scope.danglingsIn ps
    unfold Signature.resultParameter?
    induction ps with
    | nil => exact Nat.le_refl 0
    | cons p rest ih =>
      rw [danglingsIn_cons]
      cases hp : p.isCallback with
      | false =>
        rw [List.find?_cons_of_neg (by simp [hp]), List.filter_cons_of_pos (by simp [hp]),
          scope.danglingsIn_cons p]
        omega
      | true =>
        rw [List.find?_cons_of_pos hp, List.filter_cons_of_neg (by simp [hp])]
        have hrest : scope.danglingsIn (rest.filter fun p => !p.isCallback) ≤
            scope.danglingsIn rest := danglingsIn_sublist List.filter_sublist
        have hbelow := scope.danglingsIn_children_le p
        rw [danglingsIn_children] at hbelow
        dsimp only
        split
        next result hresult =>
          rw [hresult] at hbelow
          show scope.danglingsIn [result] + _ ≤ _
          omega
        next =>
          show scope.danglingsIn [] + _ ≤ _
          rw [danglingsIn_nil]
          omega

theorem danglingsIn_signature (scope : Scope) (inline : InlineTyping) (d : Descriptor)
    (ps : List Descriptor) (handling : CallbackHandling) :
    scope.danglingsIn (Signature.asked inline d ps handling) ≤
      scope.danglingsIn ps + scope.danglingsIn d.returns.toList := by
  have hvisible := scope.danglingsIn_visible handling ps
  unfold Signature.asked
  rw [danglingsIn_append, danglingsIn_append]
  split
  · omega
  · rw [danglingsIn_nil]
    omega

/-! ## Methods with one signature -/

/-- A method with one signature, or without a dangling reference in it. -/
def IsSingle (scope : Scope) (f : Descriptor) : Prop :=
  scope.danglings f.nodes = 0 ∨ Variants.count f.params = 1

/-- Every method in a descriptor, at any depth, has one signature or no dangling reference in it. -/
def SingleMethods (scope : Scope) (d : Descriptor) : Prop :=
  ∀ x ∈ d.nodes, ∀ f ∈ x.functions.getD [], scope.IsSingle f

theorem singleMethods_iff {d : Descriptor} :
    scope.SingleMethods d ↔
      (∀ f ∈ d.functions.getD [], scope.IsSingle f) ∧ ∀ c ∈ d.children, scope.SingleMethods c := by
  unfold SingleMethods
  rw [Descriptor.nodes_eq]
  constructor
  · intro h
    refine ⟨h d List.mem_cons_self, fun c hc x hx => h x ?_⟩
    exact List.mem_cons_of_mem d (List.mem_flatMap.mpr ⟨c, hc, hx⟩)
  · rintro ⟨hself, hbelow⟩ x hx
    rcases List.mem_cons.mp hx with rfl | hx
    · exact hself
    · obtain ⟨c, hc, hx⟩ := List.mem_flatMap.mp hx
      exact hbelow c hc x hx

theorem SingleMethods.child {d c : Descriptor} (h : scope.SingleMethods d) (hc : c ∈ d.children) :
    scope.SingleMethods c :=
  (singleMethods_iff.mp h).2 c hc

theorem SingleMethods.withOptional {d : Descriptor} (h : scope.SingleMethods d) (on : Bool) :
    scope.SingleMethods (d.withOptional on) := by
  rw [singleMethods_iff] at h ⊢
  exact h

theorem SingleMethods.param {d p : Descriptor} (h : scope.SingleMethods d) (hp : p ∈ d.params) :
    scope.SingleMethods p :=
  h.child (by simp [Descriptor.children, hp])

theorem SingleMethods.returns {d e : Descriptor} (h : scope.SingleMethods d)
    (he : d.returns = some e) : scope.SingleMethods e :=
  h.child (by simp [Descriptor.children, he])

theorem singleMethods_responseParameter : scope.SingleMethods Descriptor.responseParameter := by
  refine singleMethods_iff.mpr ⟨fun f hf => ?_, fun c hc => ?_⟩
  · cases hf
  · cases hc

/-- Other parameters do not matter as long as their methods are single. -/
theorem SingleMethods.parameters {d : Descriptor} (h : scope.SingleMethods d)
    {ps : Option (List Descriptor)} (hps : ∀ p ∈ ps.getD [], scope.SingleMethods p) :
    scope.SingleMethods { d with parameters := ps } := by
  refine singleMethods_iff.mpr ⟨(singleMethods_iff.mp h).1, fun c hc => ?_⟩
  have hcases : c ∈ ps.getD [] ∨ c ∈ d.children := by
    simp only [Descriptor.children, Descriptor.params, Descriptor.extraParams,
      Descriptor.additional?, List.mem_append] at hc ⊢
    grind
  rcases hcases with hc | hc
  · exact hps c hc
  · exact h.child hc

theorem SingleMethods.asResponder {d : Descriptor} (h : scope.SingleMethods d) :
    scope.SingleMethods d.asResponder := by
  unfold Descriptor.asResponder
  split
  · apply h.parameters
    intro p hp
    rw [List.mem_singleton.mp hp]
    exact singleMethods_responseParameter
  · exact h

theorem SingleMethods.overridden {d d' : Descriptor} (h : scope.SingleMethods d)
    (ho : d.overridden? = some d') : scope.SingleMethods d' := by
  rcases Descriptor.eq_of_overridden ho with rfl | rfl
  · exact h
  · apply h.parameters
    intro p hp
    change p ∈ d.reshapeResponders.params at hp
    rw [Descriptor.params_reshapeResponders] at hp
    obtain ⟨q, hq, rfl⟩ := List.mem_map.mp hp
    exact (h.param hq).asResponder

theorem SingleMethods.signature {d : Descriptor} {ps : List Descriptor}
    {handling : CallbackHandling} (hps : ∀ p ∈ ps, scope.SingleMethods p)
    (hreturns : ∀ e, d.returns = some e → scope.SingleMethods e) :
    ∀ e ∈ Signature.asked inline d ps handling, scope.SingleMethods e := by
  intro e he
  unfold Signature.asked at he
  rcases List.mem_append.mp he with he | he
  · cases handling with
    | keep => cases he
    | consume =>
      obtain ⟨p, hp, he⟩ := Signature.resultParameter?_mem (Option.mem_toList.mp he)
      exact (hps p hp).param he
  · rcases List.mem_append.mp he with he | he
    · split at he
      · exact hreturns e (by simpa using he)
      · cases he
    · cases handling with
      | keep => exact hps e he
      | consume => exact hps e (List.mem_filter.mp he).1

theorem SingleMethods.variant {params ps : List Descriptor} (h : ps ∈ Variants.all params)
    (hparams : ∀ p ∈ params, scope.SingleMethods p) : ∀ p ∈ ps, scope.SingleMethods p := by
  intro p hp
  obtain ⟨q, hq, rfl | rfl⟩ := mem_variant h hp
  · exact hparams p hq
  · exact (hparams q hq).withOptional false

/-! ## What is asked for -/

/-- A list of lists of which each is bounded, and which has one member or no bound to keep. -/
theorem danglingsIn_lists_le {lists : List (List Descriptor)}
    {asked : List Descriptor → List Descriptor} {bound : Nat}
    (h : ∀ ps ∈ lists, scope.danglingsIn (asked ps) ≤ bound)
    (hone : bound = 0 ∨ lists.length = 1) : scope.danglingsIn (lists.flatMap asked) ≤ bound := by
  rcases hone with rfl | hone
  · induction lists with
    | nil => exact Nat.le_refl 0
    | cons ps rest ih =>
      have hfirst := h ps List.mem_cons_self
      have hrest := ih fun qs hqs => h qs (List.mem_cons_of_mem ps hqs)
      rw [List.flatMap_cons, danglingsIn_append]
      omega
  · obtain ⟨ps, rfl⟩ := List.length_eq_one_iff.mp hone
    rw [List.flatMap_singleton]
    exact h ps (List.mem_singleton_self ps)

theorem count_of_overridden {f g : Descriptor} (h : f.overridden? = some g) :
    Variants.count g.params = Variants.count f.params := by
  have houtline : g.params.map Variants.outline = f.params.map Variants.outline := by
    rcases Descriptor.eq_of_overridden h with rfl | rfl
    · rfl
    · rw [Descriptor.params_reshapeResponders, List.map_map]
      refine List.map_congr_left fun p _ => ?_
      show Variants.outline p.asResponder = Variants.outline p
      unfold Descriptor.asResponder
      split <;> rfl
  unfold Variants.count
  rw [Variants.innerPositions_congr houtline]

/-- A signature of a method or function asks for what is in it. -/
theorem danglingsIn_variant_signature (scope : Scope) (inline : InlineTyping) {d : Descriptor}
    {ps : List Descriptor} (h : ps ∈ Variants.all d.params) :
    scope.danglingsIn (Signature.asked inline d ps .consume) ≤ scope.danglingsIn d.children := by
  have hsignature := scope.danglingsIn_signature inline d ps .consume
  have hvariant := scope.danglingsIn_variant h
  rw [danglingsIn_children]
  omega

theorem danglingsIn_methodAsked {f : Descriptor} (h : scope.IsSingle f) :
    scope.danglingsIn (ObjectTyping.methodAsked inline f) ≤ scope.danglingsIn [f] := by
  unfold ObjectTyping.methodAsked
  cases ho : f.overridden? with
  | none => exact Nat.zero_le _
  | some g =>
    dsimp only
    split
    · exact Nat.zero_le _
    · refine danglingsIn_lists_le (fun ps hps => ?_) ?_
      · have hsignature := scope.danglingsIn_variant_signature inline hps
        have hchildren := scope.danglingsIn_children_le g
        have hreshape := scope.danglingsIn_overridden ho
        omega
      · rw [danglingsIn_singleton, Variants.length_all, count_of_overridden ho]
        exact h

theorem singleMethods_methodAsked {f : Descriptor} (h : scope.SingleMethods f) :
    ∀ e ∈ ObjectTyping.methodAsked inline f, scope.SingleMethods e := by
  intro e he
  unfold ObjectTyping.methodAsked at he
  cases ho : f.overridden? with
  | none =>
    rw [ho] at he
    cases he
  | some g =>
    rw [ho] at he
    have hg := h.overridden ho
    dsimp only at he
    split at he
    · cases he
    · obtain ⟨ps, hps, he⟩ := List.mem_flatMap.mp he
      have hparams := SingleMethods.variant hps fun p hp => hg.param hp
      exact SingleMethods.signature hparams (fun e he => hg.returns he) e he

/-- **What a type asks for stands at different places below the descriptor.** -/
theorem danglingsIn_asked {d : Descriptor} (h : scope.SingleMethods d) :
    scope.danglingsIn (d.asked inline) ≤ scope.danglingsIn d.children := by
  rw [danglingsIn_children]
  unfold Descriptor.asked
  split
  · have hsignature :=
      scope.danglingsIn_signature inline d d.params d.callbackHandling
    omega
  next items hk =>
    rw [Descriptor.items_of_array hk, Option.toList_some]
    omega
  next choices hk =>
    rw [Descriptor.choices_of_union hk, Option.getD_some]
    omega
  · have hmethods : scope.danglingsIn
        ((d.functions.getD []).flatMap (ObjectTyping.methodAsked inline)) ≤
        scope.danglingsIn (d.functions.getD []) :=
      danglingsIn_flatMap_le fun f hf => danglingsIn_methodAsked ((singleMethods_iff.mp h).1 f hf)
    unfold ObjectTyping.asked
    rw [danglingsIn_append, danglingsIn_append, danglingsIn_append]
    omega
  · rw [danglingsIn_nil]
    omega

theorem singleMethods_asked {d : Descriptor} (h : scope.SingleMethods d) :
    ∀ e ∈ d.asked inline, scope.SingleMethods e := by
  intro e he
  have hchild : ∀ {e : Descriptor}, e ∈ d.children → scope.SingleMethods e := fun hc => h.child hc
  unfold Descriptor.asked at he
  split at he
  · exact SingleMethods.signature (fun p hp => h.param hp) (fun e he => h.returns he) e he
  next items hk =>
    rw [List.mem_singleton.mp he]
    exact hchild (by simp [Descriptor.children, Descriptor.items_of_array hk])
  next choices hk =>
    exact hchild (by simp [Descriptor.children, Descriptor.choices_of_union hk, he])
  · unfold ObjectTyping.asked at he
    rcases List.mem_append.mp he with he | he
    · exact hchild (by simp only [Descriptor.children, List.mem_append, he, true_or, or_true])
    · rcases List.mem_append.mp he with he | he
      · obtain ⟨f, hf, he⟩ := List.mem_flatMap.mp he
        refine singleMethods_methodAsked (hchild ?_) e he
        simp only [Descriptor.children, List.mem_append, hf, true_or, or_true]
      · rcases List.mem_append.mp he with he | he
        · exact hchild (by simp only [Descriptor.children, List.mem_append, he, true_or, or_true])
        · exact hchild (by simp only [Descriptor.children, List.mem_append, he, true_or, or_true])
  · cases he

/-! ## What a type comes by -/

theorem danglings_visitedWithin_le (levels : Nat) {d : Descriptor} (h : scope.SingleMethods d) :
    scope.danglings (scope.visitedWithin levels d) ≤ scope.danglingsIn [d] := by
  induction levels generalizing d with
  | zero => exact Nat.zero_le _
  | succ levels ih =>
    rw [visitedWithin]
    cases ho : d.overridden? with
    | none => exact Nat.zero_le _
    | some d' =>
      have hd' := h.overridden ho
      have hasked : scope.danglingsIn (d'.asked (scope.inlineWithin levels)) ≤
          scope.danglingsIn d'.children := danglingsIn_asked hd'
      have hbelow : scope.danglings ((d'.asked (scope.inlineWithin levels)).flatMap
          (scope.visitedWithin levels)) ≤ scope.danglingsIn (d'.asked (scope.inlineWithin levels)) :=
        danglings_flatMap_le fun e he => ih (singleMethods_asked hd' e he)
      have hoverridden := scope.danglingsIn_overridden ho
      rw [scope.danglingsIn_eq d'] at hoverridden
      dsimp only
      rw [danglings_cons]
      omega

/-- Several types come by at most what is in their descriptors. -/
theorem danglings_asked_le (levels : Nat) {ds : List Descriptor}
    (h : ∀ d ∈ ds, scope.SingleMethods d) :
    scope.danglings (ds.flatMap (scope.visitedWithin levels)) ≤ scope.danglingsIn ds :=
  danglings_flatMap_le fun d hd => danglings_visitedWithin_le levels (h d hd)

/-- **A type comes by at most the dangling references that are in its descriptor.** -/
theorem danglings_visited_le {d : Descriptor} (h : scope.SingleMethods d) :
    scope.danglings (scope.visited d) ≤ scope.danglings d.nodes := by
  rw [← danglingsIn_singleton]
  exact danglings_visitedWithin_le (d.depth + 1) h

end Scope

end SchemaTypings
