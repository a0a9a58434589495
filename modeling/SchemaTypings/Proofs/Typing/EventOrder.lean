import SchemaTypings.Proofs.Functions.OverloadSet
import SchemaTypings.Proofs.Typing.Event
import SchemaTypings.Proofs.Variants.Order

/-!
# Order of parameters in types

Only functions and methods are declared once for each variant. A listener moves the optional parameters
before the first mandatory one out of the way and takes the others as they are, and so do extra parameters
and function types. Hence these are in order exactly when the schema declares them so.

* `value_listenerType`: the listeners of an event, one for each of its parameter lists.
* `optionalLast_signatures`: what their order depends on.
* `declared_optionalLast_iff`: for events and function types.
* `not_optionalLast_onMoved`: a mandatory parameter that does follow an optional one.
-/

namespace SchemaTypings

namespace TypeExpr

/-- The parameters of a function type. -/
def params? : TypeExpr → Option (List (Param TypeExpr))
  | function params _ => some params
  | _ => none

/-- The parameter lists of the function types that a type is a choice of. -/
def signatures : TypeExpr → List (List (Param TypeExpr))
  | union types => types.filterMap params?
  | type => type.params?.toList

/-- What the type of an event takes as a listener: the argument of the interface for events, or the
first parameter of each method. -/
def listenerTypes : TypeExpr → List TypeExpr
  | generic _ args => args
  | object members => members.flatMap fun member =>
    match member with
    | .method _ (listener :: _) _ _ => [listener.type]
    | _ => []
  | _ => []

/-- The parameter lists of the methods that add a listener. -/
def addingLists : TypeExpr → List (List (Param TypeExpr))
  | object members => members.filterMap fun member =>
    match member with
    | .method "addListener" params _ _ => some params
    | _ => none
  | _ => []

end TypeExpr

namespace EventTyping

variable {event : Descriptor} {scope : Scope}

/-! ## The listeners of an event -/

/-- The function type over one parameter list. -/
def listenerOver (event : Descriptor) (scope : Scope) (ps : List Descriptor) : TypeExpr :=
  .function (Signature.params scope.inlineType ps).value
    (Signature.returnType scope.inlineType event ps .keep).value

theorem value_listener (event : Descriptor) (scope : Scope) (ps : List Descriptor) :
    (listener event scope ps).run.value = .ok (listenerOver event scope ps) :=
  Reporting.run_bind_eq_ok.mpr
    ⟨_, Signature.value_typing scope.inlineType (event.slot_inline "function") ps .keep, rfl⟩

theorem value_listeners (event : Descriptor) (scope : Scope) (lists : List (List Descriptor)) :
    (listeners event scope lists).run.value = .ok (lists.map (listenerOver event scope)) := by
  induction lists with
  | nil => rfl
  | cons ps rest ih =>
    exact Reporting.run_bind_eq_ok.mpr ⟨_, value_listener event scope ps,
      Reporting.run_bind_eq_ok.mpr ⟨_, ih, rfl⟩⟩

theorem signatures_listeners (event : Descriptor) (scope : Scope)
    (lists : List (List Descriptor)) :
    (TypeExpr.union (lists.map (listenerOver event scope))).signatures =
      lists.map fun ps => (Signature.params scope.inlineType ps).value := by
  have hparams : TypeExpr.params? ∘ listenerOver event scope =
      some ∘ fun ps => (Signature.params scope.inlineType ps).value := rfl
  rw [TypeExpr.signatures, List.filterMap_map, hparams, List.filterMap_eq_map]

/-- **The type of the listeners is a choice of one function type for each parameter list.** -/
theorem value_listenerType {t : TypeExpr} (h : (listenerType event scope).run.value = .ok t) :
    t.signatures =
      (signatures event).map fun ps => (Signature.params scope.inlineType ps).value := by
  unfold listenerType at h
  unfold signatures
  dsimp only at h ⊢
  split at h
  next hone =>
    rw [value_listener] at h
    cases h
    rw [if_pos hone]
    rfl
  next hmany =>
    rw [if_neg hmany]
    split at h
    · cases h
    · obtain ⟨types, htypes, h⟩ := Reporting.run_bind_eq_ok.mp h
      rw [value_listeners] at htypes
      cases htypes
      cases h
      exact signatures_listeners event scope _

/-! ## Their order -/

theorem length_shiftedParams (leading rest : List Descriptor) :
    (shiftedParams leading rest).length = leading.length + 1 := by
  induction leading with
  | nil => rfl
  | cons p leading ih => rw [shiftedParams, List.length_cons, ih, List.length_cons]

theorem mem_shiftedParams {leading rest ps : List Descriptor} (h : ps ∈ shiftedParams leading rest) :
    ∃ front : List Descriptor, ps = front.map (·.withOptional false) ++ rest := by
  induction leading with
  | nil => exact ⟨[], List.mem_singleton.mp h⟩
  | cons p leading ih =>
    rcases List.mem_cons.mp h with rfl | h
    · exact ⟨p :: leading, rfl⟩
    · exact ih h

theorem drop_leading (params : List Descriptor) :
    params.drop (params.takeWhile (·.isOptional)).length = params.dropWhile (·.isOptional) := by
  have hparts : params.takeWhile (·.isOptional) ++ params.dropWhile (·.isOptional) = params :=
    List.takeWhile_append_dropWhile
  calc params.drop (params.takeWhile (·.isOptional)).length
      = (params.takeWhile (·.isOptional) ++ params.dropWhile (·.isOptional)).drop
          (params.takeWhile (·.isOptional)).length := by rw [hparts]
    _ = params.dropWhile (·.isOptional) := List.drop_left

/-- **Only the parameters from the first mandatory one on matter for the order of a listener.** -/
theorem optionalLast_signatures {ps : List Descriptor} (h : ps ∈ signatures event) :
    OptionalLast (Descriptor.marks ps) ↔
      OptionalLast (Descriptor.marks (event.params.dropWhile (·.isOptional))) := by
  unfold signatures at h
  dsimp only at h
  rw [drop_leading] at h
  split at h
  next hone =>
    rw [List.mem_singleton.mp h]
    have happend := List.takeWhile_append_dropWhile (p := (·.isOptional)) (l := event.params)
    rcases Bool.or_eq_true_iff.mp hone with hleading | hrest
    · rw [List.isEmpty_iff.mp hleading, List.nil_append] at happend
      rw [happend]
    · -- all parameters are optional
      have hall := List.all_takeWhile (p := (·.isOptional)) (l := event.params)
      rw [List.isEmpty_iff] at hrest
      rw [hrest, List.append_nil] at happend
      rw [happend] at hall
      rw [hrest]
      refine iff_of_true (optionalLast_of_forall fun b hb => ?_) .nil
      obtain ⟨p, hp, rfl⟩ := List.mem_map.mp hb
      exact List.all_eq_true.mp hall p hp
  next =>
    obtain ⟨front, rfl⟩ := mem_shiftedParams h
    rw [Descriptor.marks, List.map_append, List.map_map]
    refine optionalLast_append fun b hb => ?_
    obtain ⟨p, -, rfl⟩ := List.mem_map.mp hb
    rfl

theorem signatures_ne_nil (event : Descriptor) : signatures event ≠ [] := by
  unfold signatures
  dsimp only
  split
  · exact List.cons_ne_nil _ _
  · cases event.params.takeWhile (·.isOptional) <;> exact List.cons_ne_nil _ _

/-- How the parameter lists in the type of an event are ordered. -/
structure Ordered (event : Descriptor) (type : TypeExpr) : Prop where
  /-- There is a listener, and it is a function or a choice of some, -/
  listeners : type.listenerTypes ≠ [] ∧ ∀ t ∈ type.listenerTypes, t.signatures ≠ []
  /-- each with its optional parameters last if the event has them so from the first mandatory
  parameter on, and only then. -/
  listener : ∀ t ∈ type.listenerTypes, ∀ ps ∈ t.signatures,
    (OptionalLast (Param.marks ps) ↔
      OptionalLast (Descriptor.marks (event.params.dropWhile (·.isOptional))))
  /-- There is a list of its own for adding a listener where the event has extra parameters, -/
  adding : type.addingLists.length = if event.hasExtraParameters then 1 else 0
  /-- and it has its optional parameters last if these have, and only then. -/
  added : ∀ ps ∈ type.addingLists,
    (OptionalLast (Param.marks ps) ↔ OptionalLast (Descriptor.marks event.extraParams))

theorem listenerTypes_eventObject (callback : TypeExpr) (extra : List (Param TypeExpr)) :
    (eventObject callback extra).listenerTypes = [callback, callback, callback] := rfl

theorem addingLists_eventObject (callback : TypeExpr) (extra : List (Param TypeExpr)) :
    (eventObject callback extra).addingLists = [{ name := "cb", type := callback } :: extra] := rfl

/-- **The type of an event is ordered as the schema declares it.** -/
theorem ordered_of_typing {decl : Declaration} (h : (typing event scope).run.value = .ok decl) :
    ∃ type, decl.body = .const type ∧ Ordered event type := by
  unfold typing at h
  cases hid : event.identifier? with
  | none =>
    rw [hid] at h
    cases h
  | some id =>
    rw [hid] at h
    obtain ⟨callback, hcallback, h⟩ := Reporting.run_bind_eq_ok.mp h
    have hsignatures := value_listenerType hcallback
    have hne : callback.signatures ≠ [] := by
      rw [hsignatures]
      exact mt List.map_eq_nil_iff.mp (signatures_ne_nil event)
    have hiff : ∀ ps ∈ callback.signatures, (OptionalLast (Param.marks ps) ↔
        OptionalLast (Descriptor.marks (event.params.dropWhile (·.isOptional)))) := by
      intro ps hps
      rw [hsignatures] at hps
      obtain ⟨qs, hqs, rfl⟩ := List.mem_map.mp hps
      rw [Signature.marks_params]
      exact optionalLast_signatures hqs
    split at h
    next hextra =>
      obtain ⟨extra, hparams, h⟩ := Reporting.run_bind_eq_ok.mp h
      rw [Reporting.run_lift_eq_ok] at hparams
      cases h
      have hmem : ∀ t ∈ (eventObject callback extra).listenerTypes, t = callback := by
        intro t ht
        rw [listenerTypes_eventObject] at ht
        simpa using ht
      refine ⟨_, rfl, ⟨⟨List.cons_ne_nil _ _, fun t ht => hmem t ht ▸ hne⟩,
        fun t ht => hmem t ht ▸ hiff, by rw [addingLists_eventObject, if_pos hextra]; rfl,
        fun ps hps => ?_⟩⟩
      rw [addingLists_eventObject, List.mem_singleton] at hps
      rw [hps, Param.marks, List.map_cons, optionalLast_false_cons, ← hparams]
      exact iff_of_eq (congrArg OptionalLast (Signature.marks_params _ _))
    next hextra =>
      cases h
      have hmem : ∀ t ∈ (TypeExpr.generic eventInterface [callback]).listenerTypes,
          t = callback := fun t ht => List.mem_singleton.mp ht
      exact ⟨_, rfl, ⟨⟨List.cons_ne_nil _ _, fun t ht => hmem t ht ▸ hne⟩,
        fun t ht => hmem t ht ▸ hiff, by rw [if_neg hextra]; rfl,
        fun ps hps => absurd hps List.not_mem_nil⟩⟩

end EventTyping

/-! ## Function types -/

/-- The type of a function has the visible ones of the declared parameters. -/
theorem Scope.value_inlineType_function (scope : Scope) {d f : Descriptor}
    (hf : d.overridden? = some f) (hk : f.kind? = some .function) :
    ∃ ps returns, (scope.inlineType d).value = some (.function ps returns) ∧
      Param.marks ps = Descriptor.marks (Signature.visible f.callbackHandling f.params) := by
  have hvalue := Signature.value_typing (scope.inlineWithin d.depth) (f.slot_inline "function")
    f.params f.callbackHandling
  rw [Scope.value_inlineType, Scope.attempt, Scope.value_typing hf hk, Descriptor.kindTyping, hvalue]
  exact ⟨_, _, rfl, Signature.marks_params _ _⟩

/-- **Parameters in types are ordered as the schema declares them.** A listener has the optional
parameters of its event last exactly when they stand so from the first mandatory parameter on, a list for
adding listeners exactly when the extra parameters do, and a function type exactly when the parameters
that it shows do. -/
theorem declared_optionalLast_iff (scope : Scope) :
    (∀ event decl, (EventTyping.typing event scope).run.value = .ok decl →
      ∃ type, decl.body = .const type ∧ EventTyping.Ordered event type) ∧
    ∀ d f : Descriptor, d.overridden? = some f → f.kind? = some .function →
      ∃ ps returns, (scope.inlineType d).value = some (.function ps returns) ∧
        (OptionalLast (Param.marks ps) ↔
          OptionalLast (Descriptor.marks (Signature.visible f.callbackHandling f.params))) := by
  refine ⟨fun event decl h => EventTyping.ordered_of_typing h, fun d f hf hk => ?_⟩
  obtain ⟨ps, returns, hvalue, hmarks⟩ := scope.value_inlineType_function hf hk
  exact ⟨ps, returns, hvalue, by rw [hmarks]⟩

/-- A callback with an optional parameter before a mandatory one. -/
def doneParameter : Descriptor :=
  { typeName := some "function", name := some "done",
    parameters := some [
      { name := some "count", typeName := some "integer", optional := some (.flag true) },
      { name := some "reason", typeName := some "string" }] }

/-- An event with an optional parameter between mandatory ones, and an optional extra parameter before a
mandatory one. -/
def onMoved : Descriptor :=
  { typeName := some "function", name := some "onMoved",
    parameters := some [
      doneParameter,
      { name := some "info", typeName := some "string", optional := some (.flag true) },
      { name := some "tab", typeName := some "integer" }],
    extraParameters := some [
      { name := some "filter", typeName := some "string", optional := some (.flag true) },
      { name := some "window", typeName := some "integer" }] }

open FunctionTyping (emptyScope) in
theorem declared_optionalLast_iff_onMoved :
    (∃ decl type, (EventTyping.typing onMoved emptyScope).run.value = .ok decl ∧
      decl.body = .const type ∧ EventTyping.Ordered onMoved type) ∧
    ∃ ps returns, (emptyScope.inlineType doneParameter).value = some (.function ps returns) ∧
      (OptionalLast (Param.marks ps) ↔ OptionalLast [true, false]) := by
  obtain ⟨hevent, hfunction⟩ := declared_optionalLast_iff emptyScope
  refine ⟨?_, hfunction doneParameter doneParameter (by with_unfolding_all rfl) rfl⟩
  obtain ⟨type, hbody, hordered⟩ := hevent onMoved _ rfl
  exact ⟨_, type, rfl, hbody, hordered⟩

open FunctionTyping (emptyScope) in
/-- Mandatory parameters follow optional ones in a listener, in the list for adding it and in the type of
its own callback. -/
theorem not_optionalLast_onMoved :
    ∃ decl type, (EventTyping.typing onMoved emptyScope).run.value = .ok decl ∧
      decl.body = .const type ∧
      (∃ t ∈ type.listenerTypes, ∃ ps ∈ t.signatures, ¬OptionalLast (Param.marks ps)) ∧
      (∃ ps ∈ type.addingLists, ¬OptionalLast (Param.marks ps)) ∧
      ∃ ps returns, (emptyScope.inlineType doneParameter).value = some (.function ps returns) ∧
        ¬OptionalLast (Param.marks ps) := by
  refine ⟨_, _, rfl, rfl, ⟨_, List.mem_cons_self, _, List.mem_cons_self, ?_⟩,
    ⟨_, List.mem_cons_self, ?_⟩, ?_⟩
  · decide
  · decide
  · obtain ⟨ps, returns, hvalue, hmarks⟩ := emptyScope.value_inlineType_function
      (d := doneParameter) (f := doneParameter) (by with_unfolding_all rfl) rfl
    exact ⟨ps, returns, hvalue, by rw [hmarks]; decide⟩

end SchemaTypings
