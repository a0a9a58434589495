import SchemaTypings.Proofs.Descriptor.Nodes
import SchemaTypings.Proofs.Report.Outcomes
import SchemaTypings.Proofs.Typing.Failures

/-!
# How often a reference is reported

A reference that is not found is reported each time a generator comes by it. The type of a descriptor
asks for the types of other descriptors, some of them several times; the descriptors that it comes by are
listed here with these repetitions, and every dangling one among them is reported once.

* `Descriptor.asked`: the descriptors whose types a type is put together from, as often as they are
  asked for.
* `Scope.visited`: all descriptors that are come by on the way to a type.
* `Scope.danglings_inlineType`: a type reports one warning for each dangling reference among them.
-/

namespace SchemaTypings

/-! ## Reports -/

/-- A reference that is not found. -/
def Problem.isDangling : Problem → Bool
  | danglingReference _ _ => true
  | _ => false

namespace Reporting

variable {α β : Type}

/-- How many references are reported as not found. -/
def danglings (x : Reporting α) : Nat := x.diagnostics.countP (·.problem.isDangling)

@[simp] theorem danglings_pure (a : α) : (pure a : Reporting α).danglings = 0 := rfl

@[simp] theorem danglings_bind (x : Reporting α) (f : α → Reporting β) :
    (x >>= f).danglings = x.danglings + (f x.value).danglings := by
  rw [danglings, diagnostics_bind, List.countP_append]
  rfl

@[simp] theorem danglings_map (f : α → β) (x : Reporting α) :
    (f <$> x).danglings = x.danglings := by
  rw [danglings, diagnostics_map]
  rfl

theorem danglings_run_bind {x : Generating α} {a : α} (h : x.run.value = .ok a)
    (f : α → Generating β) :
    (x >>= f).run.danglings = x.run.danglings + (f a).run.danglings := by
  rw [ExceptT.run_bind, danglings_bind, h]

theorem danglings_run_lift (x : Reporting α) (f : α → Generating β) :
    ((liftM x : Generating α) >>= f).run.danglings = x.danglings + (f x.value).run.danglings := by
  rw [danglings_run_bind (run_lift_eq_ok.mpr rfl), ExceptT.run_liftM, danglings_map]

end Reporting

/-- Two lists of parts with equal counts for each part. -/
theorem countP_flatMap_congr {α β γ : Type} {p : β → Bool} {q : γ → Bool} {f : α → List β}
    {g : α → List γ} {l : List α} (h : ∀ a ∈ l, (f a).countP p = (g a).countP q) :
    (l.flatMap f).countP p = (l.flatMap g).countP q := by
  rw [List.countP_flatMap, List.countP_flatMap]
  exact congrArg List.sum (List.map_congr_left h)

/-- How many references are reported on the way to the types of some descriptors. -/
def InlineTyping.danglings (inline : InlineTyping) (ds : List Descriptor) : Nat :=
  (ds.flatMap fun d => (inline d).diagnostics).countP (·.problem.isDangling)

namespace InlineTyping

variable (inline : InlineTyping)

theorem danglings_singleton (d : Descriptor) : inline.danglings [d] = (inline d).danglings := by
  unfold danglings Reporting.danglings
  rw [List.flatMap_singleton]

theorem danglings_append (first second : List Descriptor) :
    inline.danglings (first ++ second) = inline.danglings first + inline.danglings second := by
  unfold danglings
  rw [List.flatMap_append, List.countP_append]

theorem danglings_optional (d? : Option Descriptor) :
    (d?.elim [] fun d => (inline d).diagnostics).countP (·.problem.isDangling) =
      inline.danglings d?.toList := by
  cases d? with
  | none => rfl
  | some d => exact (inline.danglings_singleton d).symm

/-- A run over a list reports what is asked for in its steps. -/
theorem danglings_flatMap {α : Type} {f : α → Diagnostics} {asked : α → List Descriptor}
    {l : List α} (h : ∀ a ∈ l, (f a).countP (·.problem.isDangling) = inline.danglings (asked a)) :
    (l.flatMap f).countP (·.problem.isDangling) = inline.danglings (l.flatMap asked) := by
  unfold danglings
  rw [List.flatMap_assoc]
  exact countP_flatMap_congr h

theorem danglings_collect {α β : Type} {f : α → Reporting (Option β)}
    {asked : α → List Descriptor} {l : List α}
    (h : ∀ a ∈ l, (f a).danglings = inline.danglings (asked a)) :
    (Reporting.collect f l).danglings = inline.danglings (l.flatMap asked) := by
  rw [Reporting.danglings, Reporting.diagnostics_collect]
  exact inline.danglings_flatMap h

theorem danglings_collectAll {α β : Type} {f : α → Reporting (List β)}
    {asked : α → List Descriptor} {l : List α}
    (h : ∀ a ∈ l, (f a).danglings = inline.danglings (asked a)) :
    (Reporting.collectAll f l).danglings = inline.danglings (l.flatMap asked) := by
  rw [Reporting.danglings, Reporting.diagnostics_collectAll]
  exact inline.danglings_flatMap h

end InlineTyping

/-! ## Descriptors that are asked for -/

/-- The descriptors whose types a signature asks for. -/
def Signature.asked (inline : InlineTyping) (d : Descriptor) (ps : List Descriptor)
    (handling : CallbackHandling) : List Descriptor :=
  (consumed? handling ps).toList ++
    ((if (handedOver inline ps handling).isVoid then d.returns.toList else []) ++
      visible handling ps)

namespace ObjectTyping

/-- The descriptors whose types a method asks for, in each of its signatures. -/
def methodAsked (inline : InlineTyping) (f : Descriptor) : List Descriptor :=
  match f.overridden? with
  | none => []
  | some f =>
    if f.identifier?.isNone then []
    else (Variants.all f.params).flatMap fun ps => Signature.asked inline f ps .consume

/-- The descriptors whose types an object asks for. -/
def asked (inline : InlineTyping) (d : Descriptor) : List Descriptor :=
  (d.properties.getD []).map (·.2) ++ ((d.functions.getD []).flatMap (methodAsked inline) ++
    ((d.patternProperties.getD []).map (·.2) ++ d.additional?.toList))

end ObjectTyping

/-- The descriptors whose types the type of a descriptor asks for. -/
def Descriptor.asked (inline : InlineTyping) (d : Descriptor) : List Descriptor :=
  match d.kind? with
  | some .function => Signature.asked inline d d.params d.callbackHandling
  | some (.array items) => [items]
  | some (.union choices) => choices
  | some .object => ObjectTyping.asked inline d
  | _ => []

namespace Scope

/-- The target of a reference is found nowhere: a dotted one not in the namespace it names, any other
neither in its own namespace nor in the shared one. -/
def isMissing (scope : Scope) (target : String) : Bool :=
  match splitAtLastDot? target with
  | some (space, id) => !scope.catalog.hasType space id
  | none => !scope.isLocal target && !scope.catalog.hasType sharedNamespace target

/-- A reference that is found nowhere. -/
def isDangling (scope : Scope) (d : Descriptor) : Bool :=
  match d.kind? with
  | some (.reference target) => scope.isMissing target
  | _ => false

/-- How many of some descriptors are dangling. -/
def danglings (scope : Scope) (ds : List Descriptor) : Nat := ds.countP scope.isDangling

/-- The descriptors come by on the way to a type, going down at most the given number of levels. -/
def visitedWithin (scope : Scope) : Nat → Descriptor → List Descriptor
  | 0, _ => []
  | levels + 1, d =>
    match d.overridden? with
    | none => []
    | some d => d :: (d.asked (scope.inlineWithin levels)).flatMap (visitedWithin scope levels)

/-- The descriptors come by on the way to a type. -/
def visited (scope : Scope) (d : Descriptor) : List Descriptor := scope.visitedWithin (d.depth + 1) d

end Scope

open Reporting (danglings_run_bind danglings_run_lift)

variable {scope : Scope} {inline : InlineTyping} {d : Descriptor}

/-! ## Signatures -/

theorem danglings_returnType (d : Descriptor) (ps : List Descriptor) (handling : CallbackHandling) :
    (Signature.returnType inline d ps handling).danglings =
      inline.danglings (Signature.consumed? handling ps).toList +
        inline.danglings (if (Signature.handedOver inline ps handling).isVoid then d.returns.toList
          else []) := by
  rw [Reporting.danglings, Signature.diagnostics_returnType, List.countP_append,
    InlineTyping.danglings_optional]
  split
  · rw [InlineTyping.danglings_optional]
  · rfl

theorem Signature.diagnostics_typing (inline : InlineTyping) {context : Context} {slot : Slot}
    (h : (d.slot "function" context).run = pure (.ok slot)) (ps : List Descriptor)
    (handling : CallbackHandling) :
    (typing inline d ps handling context).run.diagnostics =
      (returnType inline d ps handling).diagnostics ++
        (visible handling ps).flatMap fun p => (inline p).diagnostics := by
  have hslot : (d.slot "function" context).run.value = .ok slot := by
    rw [h]
    rfl
  unfold typing
  rw [Reporting.diagnostics_run_bind hslot, h, Reporting.diagnostics_pure, List.nil_append,
    Reporting.diagnostics_run_bind (Reporting.value_run_lift _), Reporting.diagnostics_run_lift,
    Reporting.diagnostics_run_bind (Reporting.value_run_lift _), Reporting.diagnostics_run_lift,
    diagnostics_params, ExceptT.run_pure, Reporting.diagnostics_pure, List.append_nil]

/-- A signature with a place reports what its parts report. -/
theorem danglings_signature {context : Context} {slot : Slot}
    (h : (d.slot "function" context).run = pure (.ok slot)) (ps : List Descriptor)
    (handling : CallbackHandling) :
    (Signature.typing inline d ps handling context).run.danglings =
      inline.danglings (Signature.asked inline d ps handling) := by
  have hreturns : (Signature.returnType inline d ps handling).danglings = _ :=
    danglings_returnType d ps handling
  rw [Reporting.danglings] at hreturns ⊢
  rw [Signature.diagnostics_typing inline h, List.countP_append, hreturns, Signature.asked,
    InlineTyping.danglings_append, InlineTyping.danglings_append, Nat.add_assoc]
  rfl

theorem danglings_signature_nameless {context : Context} (hid : d.identifier? = none)
    (hc : context ≠ .inline) (ps : List Descriptor) (handling : CallbackHandling) :
    (Signature.typing inline d ps handling context).run.danglings = 0 := by
  unfold Signature.typing
  rw [ExceptT.run_bind, Descriptor.slot_run_none hid hc]
  rfl

/-! ## Objects -/

namespace ObjectTyping

theorem danglings_propertyMember (d : Descriptor) (entry : String × Descriptor) :
    (propertyMember inline scope d entry).danglings = inline.danglings [entry.2] := by
  rw [inline.danglings_singleton]
  unfold propertyMember
  rw [Reporting.danglings_bind]
  cases (inline entry.2).value with
  | some type => rfl
  | none =>
    dsimp only
    split <;> rfl

theorem danglings_patternType (d : Descriptor) (entry : String × Descriptor) :
    (patternType inline scope d entry).danglings = inline.danglings [entry.2] := by
  rw [inline.danglings_singleton]
  unfold patternType
  rw [Reporting.danglings_bind]
  cases (inline entry.2).value <;> rfl

theorem danglings_methodSignature (f : Descriptor) (ps : List Descriptor) :
    (methodSignature inline scope f ps).danglings =
      inline.danglings (if f.identifier?.isNone then [] else Signature.asked inline f ps .consume) := by
  have hreport : (methodSignature inline scope f ps).danglings =
      (Signature.typing inline f ps .consume .interface).run.danglings := by
    unfold methodSignature
    rw [Reporting.danglings_bind]
    cases (Signature.typing inline f ps .consume .interface).run.value <;> rfl
  rw [hreport]
  cases hid : f.identifier? with
  | none => exact danglings_signature_nameless hid (by decide) ps .consume
  | some name =>
    obtain ⟨slot, hslot⟩ := Descriptor.slot_run_some hid "function" .interface
    exact danglings_signature hslot ps .consume

/-- A method reports what its signatures report, one after another. -/
theorem danglings_expandMethod (f : Descriptor) :
    (expandMethod inline scope f).danglings = inline.danglings (methodAsked inline f) := by
  unfold expandMethod methodAsked
  cases f.overridden? with
  | none => rfl
  | some g =>
    dsimp only
    rw [inline.danglings_collect fun ps _ => danglings_methodSignature g ps]
    split
    · rw [List.flatMap_eq_nil_iff.mpr fun _ _ => rfl]
    · rfl

theorem danglings_methodMembers (d f : Descriptor) :
    (methodMembers inline scope d f).danglings = inline.danglings (methodAsked inline f) := by
  unfold methodMembers
  split
  next hu =>
    have hskip : f.overridden? = none := by
      unfold Descriptor.overridden? Descriptor.override?
      rw [if_pos hu]
    unfold methodAsked
    rw [hskip]
    rfl
  next => exact danglings_expandMethod f

theorem danglings_members (d : Descriptor) :
    (members inline scope d).danglings =
      inline.danglings ((d.properties.getD []).map (·.2)) +
        (inline.danglings ((d.functions.getD []).flatMap (methodAsked inline)) +
          inline.danglings ((d.patternProperties.getD []).map (·.2))) := by
  unfold members
  rw [Reporting.danglings_bind, Reporting.danglings_bind, Reporting.danglings_bind,
    inline.danglings_collect fun entry _ => danglings_propertyMember d entry,
    inline.danglings_collectAll fun f _ => danglings_methodMembers d f,
    inline.danglings_collect fun entry _ => danglings_patternType d entry,
    List.map_eq_flatMap, List.map_eq_flatMap]
  rfl

theorem danglings_additionalType (d : Descriptor) :
    (additionalType inline d).danglings = inline.danglings d.additional?.toList := by
  unfold additionalType Descriptor.additional?
  rcases d.additionalProperties with _ | allowed | e
  · rfl
  · cases allowed <;> rfl
  · rw [Option.toList_some, inline.danglings_singleton]
    dsimp only
    rw [Reporting.danglings_bind]
    cases (inline e).value <;> rfl

theorem diagnostics_typing {context : Context} {id : Option String}
    (h : (d.contextId (.missingIdentifier "object" context) context).run = pure (.ok id)) :
    (typing inline d scope context).run.diagnostics =
      (members inline scope d).diagnostics ++ (additionalType inline d).diagnostics := by
  have hid : (d.contextId (.missingIdentifier "object" context) context).run.value = .ok id := by
    rw [h]
    rfl
  unfold typing
  rw [Reporting.diagnostics_run_bind hid, h, Reporting.diagnostics_pure, List.nil_append,
    Reporting.diagnostics_run_bind (Reporting.value_run_lift _), Reporting.diagnostics_run_lift,
    Reporting.diagnostics_run_bind (Reporting.value_run_lift _), Reporting.diagnostics_run_lift,
    ExceptT.run_pure, Reporting.diagnostics_pure, List.append_nil]

/-- An object with a place reports what its parts report. -/
theorem danglings_typing {context : Context} {id : Option String}
    (h : (d.contextId (.missingIdentifier "object" context) context).run = pure (.ok id)) :
    (typing inline d scope context).run.danglings = inline.danglings (asked inline d) := by
  have hmembers : (members inline scope d).danglings = _ := danglings_members d
  have hadditional : (additionalType inline d).danglings = _ := danglings_additionalType d
  rw [Reporting.danglings] at hmembers hadditional ⊢
  rw [diagnostics_typing h, List.countP_append, hmembers, hadditional]
  simp only [asked, InlineTyping.danglings_append]
  omega

end ObjectTyping

/-! ## Descriptors of every kind -/

namespace Scope

theorem danglings_resolve (scope : Scope) (target : String) :
    (scope.resolve target).danglings = if scope.isMissing target then 1 else 0 := by
  unfold resolve isMissing
  cases splitAtLastDot? target with
  | some parts =>
    dsimp only
    by_cases hfound : scope.catalog.hasType parts.1 parts.2 = true
    · simp only [hfound, Bool.not_true]
      rfl
    · simp only [hfound, Bool.not_false]
      rfl
  | none =>
    dsimp only
    by_cases hlocal : scope.isLocal target = true
    · simp only [hlocal, Bool.not_true, Bool.false_and]
      rfl
    · by_cases hshared : scope.catalog.hasType sharedNamespace target = true
      · simp only [hlocal, hshared, Bool.not_true, Bool.and_false]
        rfl
      · simp only [hlocal, hshared, Bool.not_false, Bool.and_true]
        rfl

theorem danglings_unionTyping (d : Descriptor) (es : List Descriptor) :
    (d.unionTyping inline es .inline).run.danglings = inline.danglings es := by
  have hid : (d.contextId (.unionWithoutId .inline) .inline).run.value = .ok none := rfl
  have hnone : (d.contextId (.unionWithoutId .inline) .inline).run.danglings = 0 := rfl
  have hchoices : (Reporting.collect inline es).danglings = inline.danglings es := by
    rw [Reporting.danglings, Reporting.diagnostics_collect]
    rfl
  unfold Descriptor.unionTyping
  rw [danglings_run_bind hid, danglings_run_lift, hchoices, hnone, Nat.zero_add]
  cases (Reporting.collect inline es).value <;> exact Nat.add_zero _

/-- One case for each kind: a reference reports itself, the others what is asked for. -/
theorem danglings_kindTyping {kind : Kind} (hk : d.kind? = some kind) :
    (d.kindTyping inline scope kind .inline).run.danglings =
      scope.danglings [d] + inline.danglings (d.asked inline) := by
  have hother : (∀ target, kind ≠ .reference target) → scope.danglings [d] = 0 := by
    intro h
    unfold danglings isDangling
    rw [List.countP_singleton, hk]
    cases kind <;> first | rfl | exact absurd rfl (h _)
  unfold Descriptor.asked
  rw [hk]
  cases kind with
  | reference target =>
    have hslot : (d.slot "reference" .inline).run.value = .ok .inline := rfl
    unfold Descriptor.kindTyping Descriptor.referenceTyping danglings isDangling
    rw [danglings_run_bind hslot, danglings_run_lift, danglings_resolve, List.countP_singleton, hk]
    exact Nat.zero_add _
  | function =>
    rw [hother nofun, Nat.zero_add]
    exact danglings_signature (d.slot_inline "function") _ _
  | array items =>
    rw [hother nofun, Nat.zero_add]
    unfold Descriptor.kindTyping Descriptor.arrayTyping
    rw [danglings_run_lift]
    exact (inline.danglings_singleton items).symm
  | union es =>
    rw [hother nofun, Nat.zero_add]
    exact danglings_unionTyping d es
  | object =>
    rw [hother nofun, Nat.zero_add]
    exact ObjectTyping.danglings_typing rfl
  | staticValue value =>
    rw [hother nofun]
    change (d.staticValueTyping value .inline).run.danglings = 0
    unfold Descriptor.staticValueTyping
    cases value.literalType? <;> rfl
  | null | any | boolean | integer | number | string | enumString =>
    rw [hother nofun]
    rfl

/-- A type reports one warning if it is a dangling reference itself, and what is asked for. -/
theorem danglings_typing (d : Descriptor) :
    (scope.typing inline d .inline).run.danglings =
      match d.overridden? with
      | none => 0
      | some d => scope.danglings [d] + inline.danglings (d.asked inline) := by
  unfold typing
  cases d.overridden? with
  | none => rfl
  | some d =>
    dsimp only
    cases hk : d.kind? with
    | none =>
      unfold danglings isDangling Descriptor.asked
      rw [List.countP_singleton, hk]
      rfl
    | some kind =>
      rw [ExceptT.run_map, Reporting.danglings_map]
      exact danglings_kindTyping hk

theorem danglings_contain (d : Descriptor) (context : Context)
    (generating : Generating (Option Generated)) :
    (scope.contain d context generating).danglings = generating.run.danglings := by
  unfold contain
  rw [Reporting.danglings_bind]
  cases generating.run.value <;> rfl

theorem danglings_append (scope : Scope) (first second : List Descriptor) :
    scope.danglings (first ++ second) = scope.danglings first + scope.danglings second :=
  List.countP_append

theorem danglings_cons (scope : Scope) (d : Descriptor) (ds : List Descriptor) :
    scope.danglings (d :: ds) = scope.danglings [d] + scope.danglings ds :=
  scope.danglings_append [d] ds

/-- When each type reports what it comes by, so do several. -/
theorem danglings_of_visits {visits : Descriptor → List Descriptor}
    (h : ∀ d, (inline d).danglings = scope.danglings (visits d)) (ds : List Descriptor) :
    inline.danglings ds = scope.danglings (ds.flatMap visits) :=
  countP_flatMap_congr fun d _ => h d

/-- A type within some levels reports the dangling references among what it comes by. The induction is
on the levels: one level down are the descriptors that are asked for. -/
theorem danglings_inlineWithin (scope : Scope) (levels : Nat) (d : Descriptor) :
    (scope.inlineWithin levels d).danglings = scope.danglings (scope.visitedWithin levels d) := by
  induction levels generalizing d with
  | zero => rfl
  | succ levels ih =>
    rw [inlineWithin, Reporting.danglings_bind, danglings_contain, danglings_typing, visitedWithin]
    cases d.overridden? with
    | none => rfl
    | some d =>
      dsimp only
      rw [danglings_of_visits ih, Reporting.danglings_pure, Nat.add_zero]
      exact (scope.danglings_cons d _).symm

/-- **A type reports one warning for each dangling reference that it comes by.** -/
theorem danglings_inlineType (scope : Scope) (d : Descriptor) :
    (scope.inlineType d).danglings = scope.danglings (scope.visited d) :=
  danglings_inlineWithin scope (d.depth + 1) d

end Scope

end SchemaTypings
