import SchemaTypings.Proofs.Typing.EventOrder

/-!
# The shapes of events

The listener of an event is a function over its parameters. Where optional parameters come before the first
mandatory one, it is one of several functions: the `j`-th leaves out the first `j` parameters. Such an event
cannot have extra parameters for adding a listener.

* `IsFirstMandatory`, `shiftedAt`: the parameter lists, told by positions.
* `EventTyping.value_listenerType_split`: the listeners of an event with several lists.
* `EventTyping.typing_shapes`: when an event fails, and what it declares otherwise.
-/

namespace SchemaTypings

/-! ## The first mandatory parameter -/

/-- All parameters are optional, or the first one is mandatory. -/
def IsUnsplit (params : List Descriptor) : Prop :=
  (∀ p ∈ params, p.isOptional = true) ∨ ∃ p, params[0]? = some p ∧ p.isOptional = false

/-- The first mandatory parameter stands at this position. -/
def IsFirstMandatory (params : List Descriptor) (m : Nat) : Prop :=
  (∀ p ∈ params.take m, p.isOptional = true) ∧ ∃ p, params[m]? = some p ∧ p.isOptional = false

/-- The parameters without the first `j`; those that stand before position `m` are mandatory. -/
def shiftedAt (params : List Descriptor) (m j : Nat) : List Descriptor :=
  (params.drop j).mapIdx fun i p => if j + i < m then p.withOptional false else p

variable {params : List Descriptor} {m : Nat}

theorem isUnsplit_or_split (params : List Descriptor) :
    IsUnsplit params ∨ ∃ m, 0 < m ∧ IsFirstMandatory params m := by
  induction params with
  | nil => exact .inl (.inl (List.forall_mem_nil _))
  | cons p rest ih =>
    cases hp : p.isOptional with
    | false => exact .inl (.inr ⟨p, rfl, hp⟩)
    | true =>
      rcases ih with (hall | ⟨q, hq, hmandatory⟩) | ⟨m, -, hall, hmandatory⟩
      · exact .inl (.inl (List.forall_mem_cons.mpr ⟨hp, hall⟩))
      · exact .inr ⟨1, Nat.one_pos, List.forall_mem_singleton.mpr hp, q, hq, hmandatory⟩
      · exact .inr ⟨m + 1, Nat.succ_pos m, List.forall_mem_cons.mpr ⟨hp, hall⟩, hmandatory⟩

theorem IsFirstMandatory.lt (h : IsFirstMandatory params m) : m < params.length := by
  obtain ⟨-, p, hp, -⟩ := h
  exact (List.getElem?_eq_some_iff.mp hp).1

/-- The optional parameters in front are those before the first mandatory one. -/
theorem IsFirstMandatory.takeWhile_eq (h : IsFirstMandatory params m) :
    params.takeWhile (·.isOptional) = params.take m := by
  obtain ⟨hall, p, hp, hmandatory⟩ := h
  obtain ⟨hm, rfl⟩ := List.getElem?_eq_some_iff.mp hp
  conv => lhs; rw [← List.take_append_drop m params]
  rw [List.takeWhile_append_of_pos hall, List.drop_eq_getElem_cons hm,
    List.takeWhile_cons_of_neg (Bool.not_eq_true _ ▸ hmandatory), List.append_nil]

/-- There is one first mandatory parameter at most. -/
theorem IsFirstMandatory.unique {n : Nat} (h : IsFirstMandatory params m)
    (hn : IsFirstMandatory params n) : m = n := by
  have htake := congrArg List.length (h.takeWhile_eq.symm.trans hn.takeWhile_eq)
  have hm := h.lt
  have hlt := hn.lt
  rw [List.length_take, List.length_take] at htake
  omega

theorem not_isUnsplit (hm : 0 < m) (h : IsFirstMandatory params m) : ¬IsUnsplit params := by
  obtain ⟨hall, p, hp, hmandatory⟩ := h
  rintro (hoptional | ⟨q, hq, hfirst⟩)
  · have hnot := hoptional p (List.mem_of_getElem? hp)
    rw [hmandatory] at hnot
    cases hnot
  · have hmem : q ∈ params.take m := by
      refine List.mem_of_getElem? (i := 0) ?_
      rw [List.getElem?_take_of_lt hm, hq]
    have hoptional := hall q hmem
    rw [hfirst] at hoptional
    cases hoptional

namespace EventTyping

variable {event : Descriptor} {scope : Scope} {name : String}

/-! ## Listeners -/

theorem listenerType_of_isUnsplit (h : IsUnsplit event.params) :
    listenerType event scope = listener event scope event.params := by
  unfold listenerType
  dsimp only
  rw [if_pos]
  rcases h with hall | ⟨p, hp, hmandatory⟩
  · have htake : event.params.takeWhile (·.isOptional) = event.params := by
      rw [← List.append_nil event.params, List.takeWhile_append_of_pos hall, List.takeWhile_nil]
    rw [htake, List.drop_length, List.isEmpty_nil, Bool.or_true]
  · cases hparams : event.params with
    | nil => simp [hparams] at hp
    | cons q rest =>
      obtain rfl : q = p := by simpa [hparams] using hp
      rw [List.takeWhile_cons_of_neg (Bool.not_eq_true _ ▸ hmandatory), List.isEmpty_nil, Bool.true_or]

theorem listenerType_of_isFirstMandatory (hm : 0 < m) (h : IsFirstMandatory event.params m) :
    listenerType event scope =
      if event.hasExtraParameters then throw (.conflictingEventShapes event.label)
      else (do
        let types ← listeners event scope (shiftedParams (event.params.take m) (event.params.drop m))
        pure (.union types)) := by
  have hlength : (event.params.take m).length = m := List.length_take_of_le (Nat.le_of_lt h.lt)
  have hleading : (event.params.take m).isEmpty = false := by
    rw [List.isEmpty_eq_false_iff, ne_eq, ← List.length_eq_zero_iff]
    omega
  have hrest : (event.params.drop m).isEmpty = false := by
    rw [List.isEmpty_eq_false_iff, ne_eq, ← List.length_eq_zero_iff, List.length_drop]
    have := h.lt
    omega
  unfold listenerType
  dsimp only
  rw [h.takeWhile_eq, hlength, hleading, hrest]
  rfl

theorem getElem?_shiftedParams {leading rest : List Descriptor} {j : Nat} (hj : j ≤ leading.length) :
    (shiftedParams leading rest)[j]? =
      some ((leading.drop j).map (·.withOptional false) ++ rest) := by
  induction leading generalizing j with
  | nil =>
    obtain rfl := Nat.le_zero.mp hj
    rfl
  | cons p leading ih =>
    cases j with
    | zero => rfl
    | succ j =>
      rw [shiftedParams, List.getElem?_cons_succ, List.drop_succ_cons]
      exact ih (Nat.le_of_succ_le_succ hj)

/-- What is left behind `j` optional parameters is told by positions. -/
theorem shiftedAt_eq {j : Nat} (hj : j ≤ m) (hm : m ≤ params.length) :
    shiftedAt params m j =
      ((params.take m).drop j).map (·.withOptional false) ++ params.drop m := by
  have hlength : (((params.take m).drop j).map (·.withOptional false)).length = m - j := by
    rw [List.length_map, List.length_drop, List.length_take_of_le hm]
  refine List.ext_getElem? fun i => ?_
  rw [shiftedAt, List.getElem?_mapIdx, List.getElem?_drop]
  -- the first `m - j` of them stand before the first mandatory parameter
  by_cases hi : j + i < m
  · rw [List.getElem?_append_left (by omega), List.getElem?_map, List.getElem?_drop,
      List.getElem?_take_of_lt hi]
    simp only [if_pos hi]
  · have hposition : m + (i - (m - j)) = j + i := by omega
    rw [List.getElem?_append_right (by omega), hlength, List.getElem?_drop, hposition]
    simp only [if_neg hi, Option.map_id']

/-! ## Shapes -/

/-- The return type of the listeners of an event. -/
def listenerReturn (event : Descriptor) (scope : Scope) : TypeExpr :=
  (Signature.returnType scope.inlineType event [] .keep).value

/-- The function type over a parameter list: every parameter, with its own type. -/
def functionOver (scope : Scope) (returns : TypeExpr) (ps : List Descriptor) : TypeExpr :=
  .function (ps.mapIdx (Signature.param scope.inlineType)) returns

/-- The return type of a listener does not depend on the parameters. -/
theorem listenerOver_eq (event : Descriptor) (scope : Scope) (ps : List Descriptor) :
    listenerOver event scope ps = functionOver scope (listenerReturn event scope) ps := by
  rw [listenerOver, functionOver, Signature.value_params]
  rfl

/-- Optional parameters before the first mandatory one, and extra parameters. -/
def IsConflicting (event : Descriptor) : Prop :=
  (∃ m, IsFirstMandatory event.params m ∧ ∃ p ∈ event.params.take m, p.isOptional = true) ∧
    event.extraParams ≠ []

/-- The listener of an event. -/
structure ListenerShape (event : Descriptor) (scope : Scope) (listener : TypeExpr) : Prop where
  /-- It is one function over the parameters as they are, -/
  whole : IsUnsplit event.params →
    listener = functionOver scope (listenerReturn event scope) event.params
  /-- or one of several, the `j`-th without the first `j` parameters. -/
  split : ∀ m, 0 < m → IsFirstMandatory event.params m →
    ∃ types, listener = .union types ∧ types.length = m + 1 ∧
      ∀ j ≤ m, types[j]? =
        some (functionOver scope (listenerReturn event scope) (shiftedAt event.params m j))

/-- The type of an event with a listener, and with parameters for adding it. -/
def eventType (listener : TypeExpr) : List (Param TypeExpr) → TypeExpr
  | [] => .generic "WebExtEvent" [listener]
  | extra => .object [
      .method "addListener" ({ name := "cb", type := listener } :: extra) (.keyword .void) .none,
      .method "removeListener" [{ name := "cb", type := listener }] (.keyword .void) .none,
      .method "hasListener" [{ name := "cb", type := listener }] (.keyword .boolean) .none]

/-- What an event with a name comes to. -/
structure Shapes (event : Descriptor) (scope : Scope) (name : String)
    (outcome : Except GenerateFault Declaration) : Prop where
  /-- It fails exactly if it is in conflict with itself. -/
  fails_iff : ∀ fault, outcome = .error fault ↔
    IsConflicting event ∧ fault = .conflictingEventShapes event.label
  /-- Otherwise it is an exported constant over one listener. -/
  declares : ¬IsConflicting event → ∃ listener, ListenerShape event scope listener ∧
    outcome = .ok { name := name, exported := true, doc := event.docComment, body := .const (
      eventType listener (event.extraParams.mapIdx (Signature.param scope.inlineType))) }

theorem isConflicting_iff (h : IsFirstMandatory event.params m) :
    IsConflicting event ↔ 0 < m ∧ event.hasExtraParameters = true := by
  have hextra : event.extraParams ≠ [] ↔ event.hasExtraParameters = true := by
    rw [Descriptor.hasExtraParameters, Bool.not_eq_true', List.isEmpty_eq_false_iff]
  rw [IsConflicting, hextra]
  refine and_congr_left' ⟨?_, fun hm => ⟨m, h, ?_⟩⟩
  · rintro ⟨n, hn, p, hp, -⟩
    obtain rfl := h.unique hn
    refine Nat.pos_of_ne_zero fun hzero => ?_
    rw [hzero, List.take_zero] at hp
    exact List.not_mem_nil hp
  · have hlength : 0 < (event.params.take m).length := by
      rw [List.length_take_of_le (Nat.le_of_lt h.lt)]
      exact hm
    have hmem := List.getElem_mem hlength
    exact ⟨_, hmem, h.1 _ hmem⟩

theorem not_isConflicting_of_isUnsplit (h : IsUnsplit event.params) : ¬IsConflicting event := by
  rintro ⟨⟨m, hm, p, hp, -⟩, -⟩
  refine not_isUnsplit (Nat.pos_of_ne_zero fun hzero => ?_) hm h
  rw [hzero, List.take_zero] at hp
  exact List.not_mem_nil hp

/-- The listener of an event that has no mandatory parameter behind an optional one. -/
theorem value_listenerType_whole (scope : Scope) (h : IsUnsplit event.params) :
    ∃ listener, (listenerType event scope).run.value = .ok listener ∧
      ListenerShape event scope listener := by
  rw [listenerType_of_isUnsplit h, value_listener, listenerOver_eq]
  exact ⟨_, rfl, fun _ => rfl, fun m hm hfirst => absurd h (not_isUnsplit hm hfirst)⟩

/-- The listener of an event whose first mandatory parameter stands behind `m` optional ones. -/
theorem value_listenerType_split (scope : Scope) (hm : 0 < m) (h : IsFirstMandatory event.params m)
    (hextra : event.hasExtraParameters = false) :
    ∃ listener, (listenerType event scope).run.value = .ok listener ∧
      ListenerShape event scope listener := by
  have hle : m ≤ event.params.length := Nat.le_of_lt h.lt
  have hlength : (event.params.take m).length = m := List.length_take_of_le hle
  rw [listenerType_of_isFirstMandatory hm h, hextra, if_neg Bool.false_ne_true]
  refine ⟨_, Reporting.run_bind_eq_ok.mpr ⟨_, value_listeners event scope _, rfl⟩,
    fun hunsplit => absurd hunsplit (not_isUnsplit hm h), fun n _ hn => ?_⟩
  obtain rfl := h.unique hn
  refine ⟨_, rfl, ?_, fun j hj => ?_⟩
  · rw [List.length_map, length_shiftedParams, hlength]
  · rw [List.getElem?_map, getElem?_shiftedParams (hlength.symm ▸ hj), ← shiftedAt_eq hj hle,
      Option.map_some, listenerOver_eq]

/-- An event with a listener is a constant. -/
theorem typing_of_listenerType {listener : TypeExpr} (hid : event.identifier? = some name)
    (h : (listenerType event scope).run.value = .ok listener) :
    (typing event scope).run.value =
      .ok { name := name, exported := true, doc := event.docComment, body := .const (
        eventType listener (event.extraParams.mapIdx (Signature.param scope.inlineType))) } := by
  unfold typing
  rw [hid]
  refine (Reporting.value_run_bind h).trans ?_
  cases hextra : event.extraParams with
  | nil =>
    rw [if_neg (by rw [Descriptor.hasExtraParameters, hextra]; exact Bool.false_ne_true)]
    rfl
  | cons p rest =>
    rw [if_pos (by rw [Descriptor.hasExtraParameters, hextra]; rfl)]
    refine (Reporting.value_run_bind (Reporting.run_lift_eq_ok.mpr (Signature.value_params _ _))).trans ?_
    rw [List.mapIdx_cons]
    rfl

/-- An event with a listener fails in no way. -/
theorem shapes_of_listenerType {listener : TypeExpr} (hid : event.identifier? = some name)
    (h : (listenerType event scope).run.value = .ok listener)
    (hshape : ListenerShape event scope listener) (hnot : ¬IsConflicting event) :
    Shapes event scope name (typing event scope).run.value := by
  rw [typing_of_listenerType hid h]
  exact ⟨fun fault => ⟨nofun, fun hfault => absurd hfault.1 hnot⟩, fun _ => ⟨listener, hshape, rfl⟩⟩

/-- An event in conflict with itself fails. -/
theorem shapes_of_isConflicting (scope : Scope) (hid : event.identifier? = some name) (hm : 0 < m)
    (hfirst : IsFirstMandatory event.params m) (hextra : event.hasExtraParameters = true) :
    Shapes event scope name (typing event scope).run.value := by
  have hconflict := (isConflicting_iff hfirst).mpr ⟨hm, hextra⟩
  have hlistener : (listenerType event scope).run.value = .error (.conflictingEventShapes event.label) := by
    rw [listenerType_of_isFirstMandatory hm hfirst, if_pos hextra]
    rfl
  have hvalue : (typing event scope).run.value = .error (.conflictingEventShapes event.label) := by
    unfold typing
    rw [hid]
    exact Reporting.value_run_bind_of_error hlistener
  refine ⟨fun fault => ?_, fun hnot => absurd hconflict hnot⟩
  rw [hvalue]
  exact ⟨fun hfault => ⟨hconflict, (Except.error.inj hfault).symm⟩,
    fun hfault => congrArg Except.error hfault.2.symm⟩

/-- **The shapes of events.** An event fails exactly if it has an optional parameter before the first
mandatory one and extra parameters as well. Any other is a constant over one listener: a function over
the parameters as they are, or, with `m` optional parameters before the first mandatory one, the choice of
`m + 1` functions, the `j`-th without the first `j` parameters, those up to the first mandatory one being
mandatory in it. -/
theorem typing_shapes (scope : Scope) (h : event.identifier? = some name) :
    Shapes event scope name (typing event scope).run.value := by
  rcases isUnsplit_or_split event.params with hunsplit | ⟨m, hm, hfirst⟩
  · obtain ⟨listener, hlistener, hshape⟩ := value_listenerType_whole scope hunsplit
    exact shapes_of_listenerType h hlistener hshape (not_isConflicting_of_isUnsplit hunsplit)
  · cases hextra : event.hasExtraParameters with
    | false =>
      obtain ⟨listener, hlistener, hshape⟩ := value_listenerType_split scope hm hfirst hextra
      refine shapes_of_listenerType h hlistener hshape fun hconflict => ?_
      have htrue := ((isConflicting_iff hfirst).mp hconflict).2
      rw [hextra] at htrue
      cases htrue
    | true => exact shapes_of_isConflicting scope h hm hfirst hextra

/-- An event with two optional parameters before a mandatory one. -/
def onClicked : Descriptor :=
  { typeName := some "function", name := some "onClicked",
    parameters := some [
      { name := some "info", typeName := some "string", optional := some (.flag true) },
      { name := some "callback", typeName := some "string", optional := some (.flag true) },
      { name := some "tab", typeName := some "integer" }] }

/-- The event with an extra parameter. -/
def onClickedIn : Descriptor :=
  { onClicked with extraParameters := some [{ name := some "window", typeName := some "integer" }] }

open FunctionTyping (emptyScope) in
theorem typing_shapes_onClicked :
    (∃ listener, ListenerShape onClicked emptyScope listener ∧
      (typing onClicked emptyScope).run.value =
        .ok { name := "onClicked", exported := true, doc := onClicked.docComment,
              body := .const (.generic "WebExtEvent" [listener]) }) ∧
      (typing onClickedIn emptyScope).run.value = .error (.conflictingEventShapes onClickedIn.label) := by
  constructor
  · have hid : onClicked.identifier? = some "onClicked" := rfl
    exact (typing_shapes emptyScope hid).declares fun hconflict => hconflict.2 rfl
  · have hid : onClickedIn.identifier? = some "onClicked" := rfl
    have hconflict : IsConflicting onClickedIn :=
      ⟨⟨2, ⟨by decide, _, rfl, rfl⟩, _, List.mem_cons_self, rfl⟩, List.cons_ne_nil _ _⟩
    exact ((typing_shapes emptyScope hid).fails_iff _).mpr ⟨hconflict, rfl⟩

end EventTyping

end SchemaTypings
