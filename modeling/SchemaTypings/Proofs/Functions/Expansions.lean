import SchemaTypings.Proofs.Functions.Danglings
import SchemaTypings.Proofs.Typing.EventOrder

/-!
# Repeated warnings

A function, a method and an event are expanded to several signatures. Each of them is generated on its own,
so a dangling reference is reported once for each signature that shows it. Within one signature, and among
the hoisted types, it is reported at most once.

* `Expansion`: the signatures that an entry is expanded to.
* `expand_danglings_le_one_iff`: a single dangling reference is reported once at most exactly when at most one
  signature shows it.
-/

namespace SchemaTypings

/-! ## Signatures that show a dangling reference -/

namespace Scope

/-- What a signature over some parameters comes by. -/
def signatureVisited (scope : Scope) (d : Descriptor) (handling : CallbackHandling)
    (ps : List Descriptor) : List Descriptor :=
  (Signature.asked scope.inlineType d ps handling).flatMap scope.visited

/-- A signature over some parameters comes by a dangling reference. -/
def shows (scope : Scope) (d : Descriptor) (handling : CallbackHandling) (ps : List Descriptor) :
    Bool :=
  (scope.signatureVisited d handling ps).any scope.isDangling

variable {scope : Scope} {d : Descriptor} {handling : CallbackHandling}

theorem danglings_asked (ps : List Descriptor) :
    scope.inlineType.danglings (Signature.asked scope.inlineType d ps handling) =
      scope.danglings (scope.signatureVisited d handling ps) :=
  danglings_of_visits scope.danglings_inlineType _

theorem danglings_signatureVisited_le (d : Descriptor) (handling : CallbackHandling)
    {ps : List Descriptor} (hps : ∀ p ∈ ps, scope.SingleMethods p)
    (hreturns : ∀ e, d.returns = some e → scope.SingleMethods e) :
    scope.danglings (scope.signatureVisited d handling ps) ≤
      scope.danglingsIn ps + scope.danglingsIn d.returns.toList := by
  have hsignature := scope.danglingsIn_signature scope.inlineType d ps handling
  have hvisits : scope.danglings (scope.signatureVisited d handling ps) ≤
      scope.danglingsIn (Signature.asked scope.inlineType d ps handling) := by
    apply danglings_flatMap_le
    intro e he
    rw [danglingsIn_singleton]
    exact danglings_visited_le (SingleMethods.signature hps hreturns e he)
  omega

/-- What stands in place of an entry has in its parts at most what was in the entry. -/
theorem danglingsIn_parts_le (scope : Scope) {d d' : Descriptor} (h : d.overridden? = some d') :
    scope.danglingsIn d'.params + scope.danglingsIn d'.extraParams +
      scope.danglingsIn d'.returns.toList ≤ scope.danglings d.nodes := by
  have hle := scope.danglingsIn_overridden h
  rw [danglingsIn_singleton scope d, danglingsIn_eq, danglingsIn_children] at hle
  omega

theorem danglings_eq_ite {ds : List Descriptor} (h : scope.danglings ds ≤ 1) :
    scope.danglings ds = if ds.any scope.isDangling then 1 else 0 := by
  have hpos : 0 < scope.danglings ds ↔ ds.any scope.isDangling = true := by
    unfold danglings
    rw [List.countP_pos_iff, List.any_eq_true]
  split
  next hany =>
    have := hpos.mpr hany
    omega
  next hany =>
    have := mt hpos.mp hany
    omega

/-- One report for each signature that shows the reference, if it is reported once in each. -/
theorem danglings_flatMap_eq {lists : List (List Descriptor)}
    (h : ∀ ps ∈ lists, scope.danglings (scope.signatureVisited d handling ps) ≤ 1) :
    scope.danglings (lists.flatMap (scope.signatureVisited d handling)) =
      lists.countP (scope.shows d handling) := by
  induction lists with
  | nil => rfl
  | cons ps rest ih =>
    have hrest := ih fun qs hqs => h qs (List.mem_cons_of_mem ps hqs)
    rw [List.flatMap_cons, danglings_append, List.countP_cons, hrest,
      danglings_eq_ite (h ps List.mem_cons_self), Nat.add_comm]
    rfl

end Scope

/-- The signatures that an entry is expanded to: where they are generated, what they are signatures of,
what they do with the callback, and their parameters. -/
structure Expansion where
  scope : Scope
  subject : Descriptor
  handling : CallbackHandling
  lists : List (List Descriptor)

namespace Expansion

/-- How many signatures show a dangling reference. -/
def showing (x : Expansion) : Nat := x.lists.countP (x.scope.shows x.subject x.handling)

/-- All reports of the signatures. -/
def danglings (x : Expansion) : Nat :=
  x.scope.danglings (x.lists.flatMap (x.scope.signatureVisited x.subject x.handling))

/-- With what is reported beside the signatures, a reference is reported once at most exactly when at
most one of them shows it. If it is reported beside them, none of them does. -/
theorem danglings_le_one_iff {x : Expansion} {beside : Nat} (hbeside : beside ≤ 1)
    (h : ∀ ps ∈ x.lists,
      beside + x.scope.danglings (x.scope.signatureVisited x.subject x.handling ps) ≤ 1) :
    beside + x.danglings ≤ 1 ↔ x.showing ≤ 1 := by
  have hsum : x.danglings = x.showing := by
    apply Scope.danglings_flatMap_eq
    intro ps hps
    have := h ps hps
    omega
  rw [hsum]
  by_cases hzero : beside = 0
  · omega
  · have hnone : x.showing = 0 := by
      unfold showing
      rw [List.countP_eq_zero]
      intro ps hps hshows
      have hle := h ps hps
      have hone : x.scope.danglings (x.scope.signatureVisited x.subject x.handling ps) = 1 := by
        rw [Scope.danglings_eq_ite (by omega)]
        exact if_pos hshows
      omega
    omega

end Expansion

/-! ## Methods -/

namespace ObjectTyping

/-- The signatures of a method. -/
def expansion (f : Descriptor) (scope : Scope) : Expansion where
  scope := scope
  subject := f
  handling := .consume
  lists := Variants.all f.params

/-- The signatures of a method, unless it is skipped or has no name. -/
def expansion? (f : Descriptor) (scope : Scope) : Option Expansion :=
  match f.overridden? with
  | none => none
  | some f => if f.identifier?.isNone then none else some (expansion f scope)

/-- A method reports what its signatures report. -/
theorem danglings_expandMethod_eq (f : Descriptor) (scope : Scope) :
    (expandMethod scope.inlineType scope f).danglings =
      (expansion? f scope).elim 0 Expansion.danglings := by
  rw [danglings_expandMethod]
  unfold methodAsked expansion?
  cases f.overridden? with
  | none => rfl
  | some g =>
    dsimp only
    split
    · rfl
    · rw [Scope.danglings_of_visits scope.danglings_inlineType, List.flatMap_assoc]
      rfl

/-- **A method reports a single dangling reference once at most exactly when at most one of its
signatures shows it.** -/
theorem danglings_expandMethod_iff {f : Descriptor} {scope : Scope}
    (hone : scope.danglings f.nodes ≤ 1) (hmethods : scope.SingleMethods f) :
    (expandMethod scope.inlineType scope f).danglings ≤ 1 ↔
      ∀ x, expansion? f scope = some x → x.showing ≤ 1 := by
  rw [danglings_expandMethod_eq]
  unfold expansion?
  cases ho : f.overridden? with
  | none => simp
  | some g =>
    have hg := hmethods.overridden ho
    have hle := scope.danglingsIn_parts_le ho
    dsimp only
    split
    · simp
    · simp only [Option.elim_some, Option.some.injEq, forall_eq']
      rw [← Nat.zero_add (Expansion.danglings _)]
      refine Expansion.danglings_le_one_iff (Nat.zero_le 1) fun ps hps => ?_
      have hvariant := scope.danglingsIn_variant hps
      have hvisits := Scope.danglings_signatureVisited_le g .consume
        (Scope.SingleMethods.variant hps fun p hp => hg.param hp) fun e he => hg.returns he
      show 0 + scope.danglings (scope.signatureVisited g .consume ps) ≤ 1
      omega

end ObjectTyping

/-! ## Functions -/

namespace FunctionTyping

/-- The signatures of a function, behind the types made for its parameters. -/
def expansion (d : Descriptor) (name : String) (scope : Scope) : Expansion where
  scope := scope.extend (prepare d name scope).value.2
  subject := d
  handling := .consume
  lists := Variants.all (prepare d name scope).value.1

/-- The signatures of a function, unless it is skipped or has no name. -/
def expansion? (d : Descriptor) (scope : Scope) : Option Expansion :=
  match d.overridden? with
  | none => none
  | some d => d.identifier?.map fun name => expansion d name scope

theorem danglings_overload {d : Descriptor} {name : String} (hid : d.identifier? = some name)
    (scope : Scope) (ps : List Descriptor) :
    (overload d name scope ps).danglings =
      scope.danglings (scope.signatureVisited d .consume ps) := by
  have hreport : (overload d name scope ps).danglings =
      (Signature.typing scope.inlineType d ps .consume .namespace).run.danglings := by
    unfold overload
    rw [Reporting.danglings_bind]
    cases (Signature.typing scope.inlineType d ps .consume .namespace).run.value <;> rfl
  rw [hreport, danglings_signature (Descriptor.slot_namespace hid "function")]
  exact Scope.danglings_asked ps

theorem danglings_expandNamed {d : Descriptor} {name : String} (hid : d.identifier? = some name)
    (scope : Scope) :
    (expandNamed d name scope).danglings =
      (prepare d name scope).danglings + (expansion d name scope).danglings := by
  have hwarning : List.countP (fun x : Diagnostic => x.problem.isDangling)
      (if Variants.limit < (Variants.innerPositions d.params).length then
        [⟨.warning, some scope.space,
          .tooManyVariants name (Variants.innerPositions d.params).length⟩]
      else []) = 0 := by
    split <;> rfl
  unfold Expansion.danglings Reporting.danglings
  rw [diagnostics_expandNamed]
  dsimp only
  rw [List.countP_append, List.countP_append, hwarning, Nat.zero_add]
  congr 1
  exact countP_flatMap_congr fun ps _ => danglings_overload hid _ ps

/-- The names of the types that parameters of a function may become have no dot. -/
def BareInterfaces (d : Descriptor) : Prop :=
  ∀ name, d.identifier? = some name → BareNames name d.params

/-- What the types of the parameters report and what is left in the parameters. -/
theorem danglings_prepare {d : Descriptor} {name : String} {scope : Scope}
    (hmethods : scope.SingleMethods d) (hbare : BareNames name d.params) :
    (prepare d name scope).danglings +
      (scope.extend (prepare d name scope).value.2).danglingsIn (prepare d name scope).value.1 ≤
        scope.danglingsIn d.params := by
  unfold prepare
  split
  · have hle := scope.danglingsIn_extend_le [] d.params
    show 0 + (scope.extend []).danglingsIn d.params ≤ _
    omega
  · refine danglings_hoistParams (fun p hp => hmethods.param hp) hbare (fun _ h => h) ?_
    intro decl hdecl
    exact (hoistParams_made (made_nil scope d.params) fun q hq => hq).inTypeSpace hdecl

theorem singleMethods_prepare {d : Descriptor} {name : String} {scope : Scope}
    (hmethods : scope.SingleMethods d) :
    ∀ p ∈ (prepare d name scope).value.1, scope.SingleMethods p :=
  forall_mem_prepare (fun _ hp => hmethods.param hp) fun p _ => singleMethods_asReferenceTo scope p

theorem BareInterfaces.overridden {d d' : Descriptor} (h : BareInterfaces d)
    (ho : d.overridden? = some d') : BareInterfaces d' := by
  intro name hid p hp paramName hname hh
  rw [Descriptor.identifier?_of_overridden ho] at hid
  rcases Descriptor.eq_of_overridden ho with rfl | rfl
  · exact h name hid p hp paramName hname hh
  · rw [Descriptor.params_reshapeResponders] at hp
    obtain ⟨q, hq, rfl⟩ := List.mem_map.mp hp
    have hsame : q.asResponder.name = q.name ∧ isHoistable q.asResponder = isHoistable q := by
      unfold Descriptor.asResponder
      split <;> exact ⟨rfl, rfl⟩
    rw [hsame.1] at hname
    rw [hsame.2] at hh
    exact h name hid q hq paramName hname hh

/-- **A function reports a single dangling reference once at most exactly when at most one of its
signatures shows it.** -/
theorem danglings_expand_iff {d : Descriptor} {scope : Scope} (hone : scope.danglings d.nodes ≤ 1)
    (hmethods : scope.SingleMethods d) (hbare : BareInterfaces d) :
    (expand d scope).danglings ≤ 1 ↔ ∀ x, expansion? d scope = some x → x.showing ≤ 1 := by
  unfold expand expansion?
  cases ho : d.overridden? with
  | none => simp
  | some g =>
    have hg := hmethods.overridden ho
    have hle := scope.danglingsIn_parts_le ho
    dsimp only
    cases hid : g.identifier? with
    | none => exact iff_of_true (Nat.zero_le 1) fun x hx => by cases hx
    | some name =>
      have hprepare := danglings_prepare hg ((hbare.overridden ho) name hid)
      have hparams : ∀ p ∈ (prepare g name scope).value.1, scope.SingleMethods p :=
        singleMethods_prepare hg
      dsimp only
      rw [danglings_expandNamed hid]
      simp only [Option.map_some, Option.some.injEq, forall_eq']
      refine Expansion.danglings_le_one_iff (by omega) fun ps hps => ?_
      have hvariant := (expansion g name scope).scope.danglingsIn_variant hps
      have hvisits : (expansion g name scope).scope.danglings
          ((expansion g name scope).scope.signatureVisited g .consume ps) ≤ _ :=
        Scope.danglings_signatureVisited_le g .consume
          (Scope.SingleMethods.variant hps fun p hp => (hparams p hp).extend _)
          fun e he => (hg.returns he).extend _
      have hreturns : (expansion g name scope).scope.danglingsIn g.returns.toList ≤
          scope.danglingsIn g.returns.toList := scope.danglingsIn_extend_le _ _
      show _ + (expansion g name scope).scope.danglings
        ((expansion g name scope).scope.signatureVisited g .consume ps) ≤ 1
      have hscope : (expansion g name scope).scope =
        scope.extend (prepare g name scope).value.2 := rfl
      rw [← hscope] at hprepare
      omega

end FunctionTyping

/-! ## Events -/

namespace EventTyping

/-- Several listeners and extra parameters do not go together. -/
def conflicts (event : Descriptor) : Bool :=
  event.hasExtraParameters && 1 < (signatures event).length

/-- The signatures of the listeners of an event. -/
def expansion (event : Descriptor) (scope : Scope) : Expansion where
  scope := scope
  subject := event
  handling := .keep
  lists := signatures event

/-- The signatures of an event, unless it is skipped, has no name or is in conflict with itself. -/
def expansion? (event : Descriptor) (scope : Scope) : Option Expansion :=
  match event.overridden? with
  | none => none
  | some event =>
    if event.identifier?.isNone || conflicts event then none else some (expansion event scope)

variable {event : Descriptor} {scope : Scope}

theorem danglings_listener (event : Descriptor) (scope : Scope) (ps : List Descriptor) :
    (listener event scope ps).run.danglings =
      scope.danglings (scope.signatureVisited event .keep ps) := by
  have hvalue := Signature.value_typing scope.inlineType (event.slot_inline "function") ps .keep
  unfold listener
  rw [Reporting.danglings_run_bind hvalue, danglings_signature (event.slot_inline "function")]
  exact (Nat.add_zero _).trans (Scope.danglings_asked ps)

theorem danglings_listeners (event : Descriptor) (scope : Scope) (lists : List (List Descriptor)) :
    (listeners event scope lists).run.danglings =
      scope.danglings (lists.flatMap (scope.signatureVisited event .keep)) := by
  induction lists with
  | nil => rfl
  | cons ps rest ih =>
    unfold listeners
    rw [Reporting.danglings_run_bind (value_listener event scope ps), danglings_listener,
      Reporting.danglings_run_bind (value_listeners event scope rest), ih, List.flatMap_cons,
      Scope.danglings_append]
    rfl

theorem listenerType_of_conflicts (scope : Scope) (h : conflicts event = true) :
    listenerType event scope = throw (.conflictingEventShapes event.label) := by
  unfold conflicts signatures at h
  unfold listenerType
  dsimp only at h ⊢
  rw [Bool.and_eq_true] at h
  split
  next hone =>
    rw [if_pos hone] at h
    simp at h
  next => exact if_pos h.1

/-- Without a conflict the listeners are generated, and their type reports what each of them does. -/
theorem listenerType_of_not_conflicts (scope : Scope) (h : conflicts event = false) :
    (∃ t, (listenerType event scope).run.value = .ok t) ∧
      (listenerType event scope).run.danglings = (expansion event scope).danglings := by
  unfold conflicts signatures at h
  unfold listenerType expansion Expansion.danglings signatures
  dsimp only at h ⊢
  split
  next =>
    rw [danglings_listener, List.flatMap_singleton]
    exact ⟨⟨_, value_listener event scope event.params⟩, rfl⟩
  next hmany =>
    rw [if_neg hmany, length_shiftedParams] at h
    have hleading : (event.params.takeWhile (·.isOptional)).length ≠ 0 := by
      intro hzero
      rw [List.length_eq_zero_iff] at hzero
      rw [hzero] at hmany
      exact hmany rfl
    have hextra : event.hasExtraParameters = false := by
      rw [Bool.and_eq_false_iff, decide_eq_false_iff_not] at h
      rcases h with h | h
      · exact h
      · omega
    rw [if_neg (by simp [hextra]), Reporting.danglings_run_bind (value_listeners event scope _),
      danglings_listeners]
    exact ⟨⟨_, Reporting.run_bind_eq_ok.mpr ⟨_, value_listeners event scope _, rfl⟩⟩, Nat.add_zero _⟩

theorem danglingsIn_shiftedParams {leading rest ps : List Descriptor}
    (scope : Scope) (h : ps ∈ shiftedParams leading rest) :
    scope.danglingsIn ps ≤ scope.danglingsIn leading + scope.danglingsIn rest := by
  induction leading with
  | nil =>
    rw [List.mem_singleton.mp h]
    omega
  | cons p leading ih =>
    rcases List.mem_cons.mp h with rfl | h
    · have happend := scope.danglingsIn_append ((p :: leading).map (·.withOptional false)) rest
      rw [Scope.danglingsIn_map_withOptional] at happend
      omega
    · rw [Scope.danglingsIn_cons]
      have := ih h
      omega

theorem danglingsIn_signatures (scope : Scope) {ps : List Descriptor} (h : ps ∈ signatures event) :
    scope.danglingsIn ps ≤ scope.danglingsIn event.params := by
  unfold signatures at h
  dsimp only at h
  rw [drop_leading] at h
  split at h
  · obtain rfl := List.mem_singleton.mp h
    exact Nat.le_refl _
  · have hle := danglingsIn_shiftedParams scope h
    rw [← Scope.danglingsIn_append, List.takeWhile_append_dropWhile] at hle
    exact hle

theorem singleMethods_signatures {ps : List Descriptor} (h : ps ∈ signatures event)
    (hevent : scope.SingleMethods event) : ∀ p ∈ ps, scope.SingleMethods p :=
  forall_mem_signatures (fun _ hp => hevent.param hp)
    (fun _ hp => (hevent.param hp).withOptional false) h

/-- What an event reports beside its listeners: the extra parameters. -/
theorem danglings_typing {name : String} (hid : event.identifier? = some name)
    (h : conflicts event = false) :
    (typing event scope).run.danglings =
      scope.inlineType.danglings event.extraParams + (expansion event scope).danglings := by
  obtain ⟨⟨callback, hcallback⟩, hlisteners⟩ := listenerType_of_not_conflicts scope h
  have hextra : (Signature.params scope.inlineType event.extraParams).danglings =
      scope.inlineType.danglings event.extraParams :=
    congrArg (List.countP _) (Signature.diagnostics_params scope.inlineType _)
  unfold typing
  rw [hid]
  dsimp only
  rw [Reporting.danglings_run_bind hcallback, hlisteners]
  split
  · rw [Reporting.danglings_run_lift, hextra]
    exact Nat.add_comm _ _
  next hnone =>
    have hempty : event.extraParams = [] := by
      unfold Descriptor.hasExtraParameters at hnone
      simpa using hnone
    rw [hempty]
    exact Nat.add_comm _ _

theorem danglings_expand {g : Descriptor} (ho : event.overridden? = some g) (scope : Scope) :
    (expand event scope).danglings = (typing g scope).run.danglings := by
  unfold expand
  rw [ho]
  dsimp only
  rw [Reporting.danglings_bind]
  cases (typing g scope).run.value <;> rfl

/-- **An event reports a single dangling reference once at most exactly when at most one of its
listeners shows it.** -/
theorem danglings_expand_iff (hone : scope.danglings event.nodes ≤ 1)
    (hmethods : scope.SingleMethods event) :
    (expand event scope).danglings ≤ 1 ↔ ∀ x, expansion? event scope = some x → x.showing ≤ 1 := by
  unfold expansion?
  cases ho : event.overridden? with
  | none =>
    unfold expand
    rw [ho]
    exact iff_of_true (Nat.zero_le 1) fun x hx => by cases hx
  | some g =>
    have hg := hmethods.overridden ho
    have hle := scope.danglingsIn_parts_le ho
    rw [danglings_expand ho]
    dsimp only
    cases hid : g.identifier? with
    | none =>
      unfold typing
      rw [hid]
      exact iff_of_true (Nat.zero_le 1) fun x hx => by cases hx
    | some name =>
      cases hconflicts : conflicts g with
      | true =>
        have hzero : (typing g scope).run.danglings = 0 := by
          unfold typing
          rw [hid, listenerType_of_conflicts scope hconflicts]
          rfl
        rw [hzero]
        exact iff_of_true (Nat.zero_le 1) fun x hx => by cases hx
      | false =>
        rw [danglings_typing hid hconflicts]
        simp only [Option.isNone_some, Bool.or_false, Bool.false_eq_true, if_false,
          Option.some.injEq, forall_eq']
        have hextra : scope.inlineType.danglings g.extraParams ≤
            scope.danglingsIn g.extraParams := by
          rw [Scope.danglings_of_visits scope.danglings_inlineType]
          apply Scope.danglings_flatMap_le
          intro p hp
          rw [Scope.danglingsIn_singleton]
          exact Scope.danglings_visited_le (hg.child (by simp [Descriptor.children, hp]))
        refine Expansion.danglings_le_one_iff (by omega) fun ps hps => ?_
        have hlist := danglingsIn_signatures scope hps
        have hvisits := Scope.danglings_signatureVisited_le g .keep
          (singleMethods_signatures hps hg) fun e he => hg.returns he
        show _ + scope.danglings (scope.signatureVisited g .keep ps) ≤ 1
        omega

end EventTyping

/-! ## Entries -/

/-- **Where one dangling reference is reported once.** Let there be one dangling reference in a
descriptor, at any depth, in no method of an object that has several signatures. Taken as a method, as an
event or as a function, whose types for parameters have names without a dot, the descriptor reports it
once at most if and only if at most one of the signatures it is expanded to shows it. -/
theorem expand_danglings_le_one_iff {scope : Scope} {d : Descriptor}
    (hone : scope.danglings d.nodes ≤ 1) (hmethods : scope.SingleMethods d) :
    (FunctionTyping.BareInterfaces d →
      ((FunctionTyping.expand d scope).danglings ≤ 1 ↔
        ∀ x, FunctionTyping.expansion? d scope = some x → x.showing ≤ 1)) ∧
    ((ObjectTyping.expandMethod scope.inlineType scope d).danglings ≤ 1 ↔
      ∀ x, ObjectTyping.expansion? d scope = some x → x.showing ≤ 1) ∧
    ((EventTyping.expand d scope).danglings ≤ 1 ↔
      ∀ x, EventTyping.expansion? d scope = some x → x.showing ≤ 1) :=
  ⟨FunctionTyping.danglings_expand_iff hone hmethods,
    ObjectTyping.danglings_expandMethod_iff hone hmethods,
    EventTyping.danglings_expand_iff hone hmethods⟩

/-- An optional parameter in front of others. -/
def idParameter : Descriptor :=
  { name := some "id", typeName := some "integer", optional := some (.flag true) }

/-- A parameter with properties, of which one refers to a type that is nowhere. -/
def optionsParameter : Descriptor :=
  { name := some "options", typeName := some "object",
    properties := some [("target", { reference := some "Nowhere" })] }

/-- Two signatures; the reference is in the type that they share. -/
def attachFunction : Descriptor :=
  { name := some "attach", typeName := some "function",
    parameters := some [idParameter, optionsParameter] }

open FunctionTyping (emptyScope) in
theorem expand_danglings_le_one_attach :
    emptyScope.danglings attachFunction.nodes = 1 ∧
      (FunctionTyping.expand attachFunction emptyScope).danglings ≤ 1 := by
  have hone : emptyScope.danglings attachFunction.nodes = 1 := by decide +kernel
  have hmethods : emptyScope.SingleMethods attachFunction := by
    unfold Scope.SingleMethods Scope.IsSingle
    decide +kernel
  have hbare : FunctionTyping.BareInterfaces attachFunction := by
    intro name hname p hp paramName hparam hh
    cases hname
    rcases List.mem_cons.mp hp with rfl | hp
    · cases hh
    · rw [List.mem_singleton.mp hp] at hparam
      cases hparam
      decide +kernel
  have hshowing : (FunctionTyping.expansion? attachFunction emptyScope).elim 0 Expansion.showing ≤ 1 := by
    decide +kernel
  refine ⟨hone, ((expand_danglings_le_one_iff (by omega) hmethods).1 hbare).mpr fun x hx => ?_⟩
  rw [hx] at hshowing
  exact hshowing

/-- Two signatures that both take a type that is nowhere. -/
def updateEntry : Descriptor :=
  { name := some "update", typeName := some "function",
    parameters := some [idParameter, { name := some "props", reference := some "Nowhere" }] }

open FunctionTyping (emptyScope) in
/-- The dangling reference is reported for both. -/
theorem expand_danglings_update :
    emptyScope.danglings updateEntry.nodes = 1 ∧
      (FunctionTyping.expand updateEntry emptyScope).danglings = 2 ∧
      (ObjectTyping.expandMethod emptyScope.inlineType emptyScope updateEntry).danglings = 2 ∧
      (EventTyping.expand updateEntry emptyScope).danglings = 2 := by
  decide +kernel

end SchemaTypings
