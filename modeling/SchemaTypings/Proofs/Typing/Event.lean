import SchemaTypings.Proofs.Typing.Mentions
import SchemaTypings.Typing.Event

/-!
# The parts of an event

An event is put together from the signatures of its listeners and from its extra parameters. When it
reports nothing, neither do these, and it mentions only what they mention.
-/

namespace SchemaTypings.EventTyping

open Reporting (Quiet quiet_bind quiet_lift run_bind_eq_ok run_lift_eq_ok)

/-- The parameter lists of the listeners. -/
def signatures (event : Descriptor) : List (List Descriptor) :=
  let leading := event.params.takeWhile (·.isOptional)
  let rest := event.params.drop leading.length
  if leading.isEmpty || rest.isEmpty then [event.params] else shiftedParams leading rest

/-- The descriptors whose types an event asks for. -/
inductive Part (inline : InlineTyping) (event : Descriptor) : Descriptor → Prop
  | listener {ps : List Descriptor} {e : Descriptor} (hps : ps ∈ signatures event)
      (he : Signature.Part inline event ps .keep e) : Part inline event e
  | extra {e : Descriptor} (h : event.hasExtraParameters = true) (he : e ∈ event.extraParams) :
      Part inline event e

variable {event : Descriptor} {scope : Scope} {name : String}

/-! ## Listeners -/

theorem forall_mem_shiftedParams {P : Descriptor → Prop} {leading rest ps : List Descriptor}
    (hleading : ∀ p ∈ leading, P (p.withOptional false)) (hrest : ∀ p ∈ rest, P p)
    (h : ps ∈ shiftedParams leading rest) : ∀ p ∈ ps, P p := by
  induction leading with
  | nil =>
    rw [List.mem_singleton.mp h]
    exact hrest
  | cons q leading ih =>
    rcases List.mem_cons.mp h with rfl | h
    · intro p hp
      rcases List.mem_append.mp hp with hp | hp
      · obtain ⟨r, hr, rfl⟩ := List.mem_map.mp hp
        exact hleading r hr
      · exact hrest p hp
    · exact ih (fun p hp => hleading p (List.mem_cons_of_mem q hp)) h

/-- Every parameter of a listener is one of the event, mandatory or as it is. -/
theorem forall_mem_signatures {P : Descriptor → Prop} {ps : List Descriptor}
    (hkept : ∀ p ∈ event.params, P p) (hmandatory : ∀ p ∈ event.params, P (p.withOptional false))
    (h : ps ∈ signatures event) : ∀ p ∈ ps, P p := by
  unfold signatures at h
  dsimp only at h
  split at h
  · rw [List.mem_singleton.mp h]
    exact hkept
  · exact forall_mem_shiftedParams (fun p hp => hmandatory p (List.takeWhile_subset _ hp))
      (fun p hp => hkept p (List.mem_of_mem_drop hp)) h

theorem quiet_listener {ps : List Descriptor} {t : TypeExpr}
    (h : Quiet (listener event scope ps) t) :
    ∀ e, Signature.Part scope.inlineType event ps .keep e → (scope.inlineType e).diagnostics = [] := by
  obtain ⟨generated, hgenerated, -⟩ := quiet_bind.mp h
  exact Scope.quiet_signature hgenerated

theorem mentions_listener {ps : List Descriptor} {t : TypeExpr}
    (h : (listener event scope ps).run.value = .ok t) (hm : t.Mentions name) :
    scope.inlineType.Mentions name (Signature.Part scope.inlineType event ps .keep) := by
  obtain ⟨generated, hgenerated, h⟩ := run_bind_eq_ok.mp h
  cases h
  cases generated with
  | type type =>
    exact Signature.mentions_typing hgenerated ⟨type, List.mem_singleton_self type, hm⟩
  | declaration => exact absurd hm TypeExpr.not_mentions_any
  | member => exact absurd hm TypeExpr.not_mentions_any

theorem quiet_listeners {lists : List (List Descriptor)} {types : List TypeExpr}
    (h : Quiet (listeners event scope lists) types) :
    (∀ ps ∈ lists, ∃ t, Quiet (listener event scope ps) t) ∧
      ∀ t ∈ types, ∃ ps ∈ lists, Quiet (listener event scope ps) t := by
  induction lists generalizing types with
  | nil =>
    cases h.1
    exact ⟨fun _ hps => absurd hps List.not_mem_nil, fun _ ht => absurd ht List.not_mem_nil⟩
  | cons ps rest ih =>
    obtain ⟨first, hfirst, h⟩ := quiet_bind.mp h
    obtain ⟨others, hothers, h⟩ := quiet_bind.mp h
    cases h.1
    obtain ⟨hlists, htypes⟩ := ih hothers
    refine ⟨fun qs hqs => ?_, fun t ht => ?_⟩
    · rcases List.mem_cons.mp hqs with rfl | hqs
      · exact ⟨first, hfirst⟩
      · exact hlists qs hqs
    · rcases List.mem_cons.mp ht with rfl | ht
      · exact ⟨ps, List.mem_cons_self, hfirst⟩
      · obtain ⟨qs, hqs, hq⟩ := htypes t ht
        exact ⟨qs, List.mem_cons_of_mem ps hqs, hq⟩

/-- The listener type stands over all lists, and mentions what one of them mentions. -/
theorem quiet_listenerType {t : TypeExpr} (h : Quiet (listenerType event scope) t) :
    (∀ ps ∈ signatures event, ∃ u, Quiet (listener event scope ps) u) ∧
      ∀ name, t.Mentions name → ∃ ps ∈ signatures event, ∃ u,
        Quiet (listener event scope ps) u ∧ u.Mentions name := by
  unfold listenerType at h
  unfold signatures
  dsimp only at h ⊢
  split at h
  next hone =>
    rw [if_pos hone]
    refine ⟨fun ps hps => ⟨t, ?_⟩, fun name hm => ⟨_, List.mem_singleton_self _, t, h, hm⟩⟩
    rw [List.mem_singleton.mp hps]
    exact h
  next hmany =>
    rw [if_neg hmany]
    split at h
    · cases h.1
    · obtain ⟨types, htypes, h⟩ := quiet_bind.mp h
      cases h.1
      obtain ⟨hlists, hall⟩ := quiet_listeners htypes
      refine ⟨hlists, fun name hm => ?_⟩
      obtain ⟨u, hu, hm⟩ := hm.exists_part nofun
      obtain ⟨ps, hps, hq⟩ := hall u hu
      exact ⟨ps, hps, u, hq, hm⟩

/-! ## Events -/

/-- What an event declares, with the listener type and the extra parameters in it. -/
theorem quiet_typing_cases {decl : Declaration} (h : Quiet (typing event scope) decl) :
    ∃ callback, Quiet (listenerType event scope) callback ∧
      ((event.hasExtraParameters = true ∧
          (Signature.params scope.inlineType event.extraParams).diagnostics = [] ∧
          decl.types = [eventObject callback
            (Signature.params scope.inlineType event.extraParams).value]) ∨
        (event.hasExtraParameters = false ∧ decl.types = [.generic eventInterface [callback]])) := by
  unfold typing at h
  cases hid : event.identifier? with
  | none =>
    rw [hid] at h
    cases h.1
  | some id =>
    rw [hid] at h
    obtain ⟨callback, hcallback, h⟩ := quiet_bind.mp h
    refine ⟨callback, hcallback, ?_⟩
    split at h
    next hextra =>
      obtain ⟨extra, hparams, h⟩ := quiet_bind.mp h
      obtain ⟨rfl, hquiet⟩ := quiet_lift.mp hparams
      cases h.1
      exact .inl ⟨hextra, hquiet, rfl⟩
    next hextra =>
      cases h.1
      exact .inr ⟨Bool.eq_false_iff.mpr hextra, rfl⟩

theorem quiet_parts {decl : Declaration} (h : Quiet (typing event scope) decl) :
    ∀ e, Part scope.inlineType event e → (scope.inlineType e).diagnostics = [] := by
  obtain ⟨callback, hcallback, hextra⟩ := quiet_typing_cases h
  intro e he
  cases he with
  | listener hps he =>
    obtain ⟨u, hu⟩ := (quiet_listenerType hcallback).1 _ hps
    exact quiet_listener hu e he
  | extra hhas he =>
    rcases hextra with ⟨-, hquiet, -⟩ | ⟨hnone, -⟩
    · rw [Signature.diagnostics_params, List.flatMap_eq_nil_iff] at hquiet
      exact hquiet e he
    · rw [hhas] at hnone
      cases hnone

theorem mentions_listenerMethod {method : String} {callback t : TypeExpr}
    {extra : List (Param TypeExpr)} {returns : Keyword}
    (ht : t ∈ (listenerMethod method callback extra returns).types) (hm : t.Mentions name) :
    callback.Mentions name ∨ ∃ u ∈ extra.map (·.type), u.Mentions name := by
  rcases List.mem_append.mp ht with ht | ht
  · rcases List.mem_cons.mp ht with rfl | ht
    · exact .inl hm
    · exact .inr ⟨t, ht, hm⟩
  · rw [List.mem_singleton.mp ht] at hm
    exact absurd hm (TypeExpr.not_mentions_keyword returns)

theorem mentions_eventObject {callback : TypeExpr} {extra : List (Param TypeExpr)}
    (h : (eventObject callback extra).Mentions name) :
    callback.Mentions name ∨ ∃ u ∈ extra.map (·.type), u.Mentions name := by
  obtain ⟨m, hmem, t, ht, hm⟩ := TypeExpr.mentions_object h
  have hnone : callback.Mentions name ∨ (∃ u ∈ ([] : List (Param TypeExpr)).map (·.type),
      u.Mentions name) → callback.Mentions name := by
    rintro (hc | ⟨u, hu, -⟩)
    · exact hc
    · exact absurd hu List.not_mem_nil
  simp only [List.mem_cons, List.not_mem_nil, or_false] at hmem
  rcases hmem with rfl | rfl | rfl
  · exact mentions_listenerMethod ht hm
  · exact .inl (hnone (mentions_listenerMethod ht hm))
  · exact .inl (hnone (mentions_listenerMethod ht hm))

/-- An event mentions what its parts mention. -/
theorem mentions_typing {decl : Declaration} (h : Quiet (typing event scope) decl)
    (hm : decl.Mentions name) : scope.inlineType.Mentions name (Part scope.inlineType event) := by
  obtain ⟨callback, hcallback, hextra⟩ := quiet_typing_cases h
  have hlistener : callback.Mentions name →
      scope.inlineType.Mentions name (Part scope.inlineType event) := by
    intro hc
    obtain ⟨ps, hps, u, hu, hm⟩ := (quiet_listenerType hcallback).2 name hc
    exact (mentions_listener hu.1 hm).mono fun e => .listener hps
  obtain ⟨t, ht, hm⟩ := hm
  rcases hextra with ⟨hhas, -, htypes⟩ | ⟨-, htypes⟩
  · rw [htypes, List.mem_singleton] at ht
    rw [ht] at hm
    rcases mentions_eventObject hm with hc | ⟨u, hu, hm⟩
    · exact hlistener hc
    · exact (Signature.mentions_params hu hm).mono fun e => .extra hhas
  · rw [htypes, List.mem_singleton] at ht
    rw [ht] at hm
    obtain ⟨u, hu, hm⟩ := TypeExpr.mentions_generic hm
    rw [List.mem_singleton.mp hu] at hm
    exact hlistener hm

end SchemaTypings.EventTyping
