import Mathlib.Data.List.Chain
import SchemaTypings.Proofs.Typing.Levels

/-!
# How far down generation goes

A descriptor asks for the types of its parts, they ask for those of theirs, and so on. What is asked for need
not stand in the descriptor: an override may put a parameter below a response callback, at a greater depth
than there was before. That parameter asks for nothing, and where it stands nothing is put again, so one level
more than the descriptor has is always enough.

* `Scope.AsksFor`: a descriptor asks for the type of another one.
* `Scope.length_le_of_isChain`: how many descriptors can ask for each other in turn.
* `Scope.attempt_eq_rounds`: as many rounds settle a type, whatever they begin with.
* `Scope.inlineRound_eq_iff`: the recursion has one solution.
-/

namespace SchemaTypings

/-! ## Depth -/

namespace Descriptor

variable {n : Nat} {d c : Descriptor}

theorem mem_children_cases (h : c ∈ d.children) : c ∈ d.params ∨ c ∈ d.bare.children := by
  rw [mem_children_bare]
  simp only [children, List.mem_append] at h
  grind

theorem depth_le_of_children (h : ∀ c ∈ d.children, c.depth ≤ n) : d.depth ≤ n + 1 := by
  have hbelow : listDepth d.children ≤ n := by
    generalize d.children = ds at h
    induction ds with
    | nil => exact Nat.zero_le n
    | cons c ds ih =>
      rw [listDepth]
      exact Nat.max_le.mpr ⟨h c List.mem_cons_self, ih fun e he => h e (List.mem_cons_of_mem c he)⟩
  rw [depth_eq]
  omega

/-- One level is enough for what stands below a descriptor that needs some levels. -/
theorem Within.depth_le (h : d.Within n) : d.depth ≤ n + 1 := by
  cases h with
  | plain h => exact Nat.le_succ_of_le h
  | @responder d h =>
    refine depth_le_of_children fun c hc => ?_
    have hbelow : c ∈ d.children → c.depth ≤ n := fun hc =>
      Nat.le_of_lt (Nat.lt_of_lt_of_le (depth_lt_of_mem_children hc) h)
    rcases mem_children_cases hc with hc | hc
    · rcases mem_params_asResponder hc with hc | rfl
      · exact hbelow (mem_children_of_params hc)
      · exact Nat.le_trans d.depth_pos h
    · rw [bare_asResponder] at hc
      exact hbelow (mem_children_of_bare hc)
  | leaf h =>
    refine depth_le_of_children fun c hc => ?_
    rw [h] at hc
    exact absurd hc List.not_mem_nil

/-- An override adds one level at most. -/
theorem depth_overridden_le {d' : Descriptor} (ho : d.overridden? = some d') :
    d'.depth ≤ d.depth + 1 := by
  obtain ⟨n, hn⟩ := d.exists_depth_eq
  have hlow : d.Low n := low_of_depth_le (Nat.le_of_eq hn)
  rw [hn]
  refine depth_le_of_children fun c hc => ?_
  rcases mem_children_cases hc with hc | hc
  · exact (hlow.param_overridden ho hc).depth_le
  · rw [bare_overridden ho] at hc
    exact Nat.le_succ_of_le (hlow.others c hc)

end Descriptor

namespace Scope

open Descriptor (Within)

/-- On the way to the type of a descriptor the type of another one is asked for: it is a part, once the
overrides have been applied. -/
def AsksFor (scope : Scope) (d e : Descriptor) : Prop :=
  ∃ d', d.overridden? = some d' ∧ d'.Part scope.inlineType e

variable {scope : Scope} {n : Nat} {d e : Descriptor}

/-! ## Chains -/

theorem AsksFor.within (h : scope.AsksFor d e) (hd : d.Within (n + 1)) : e.Within n := by
  obtain ⟨d', ho, he⟩ := h
  exact hd.part ho he

theorem not_asksFor_of_within (hd : d.Within 0) : ¬scope.AsksFor d e := by
  rintro ⟨d', ho, he⟩
  exact Descriptor.not_part_of_leaf hd.children_eq_nil ho he

/-- Each descriptor in a chain needs one level less than the one before. The induction is on the chain. -/
theorem length_le_of_isChain {rest : List Descriptor} (hd : d.Within n)
    (h : List.IsChain scope.AsksFor (d :: rest)) : (d :: rest).length ≤ n + 1 := by
  induction rest generalizing d n with
  | nil => exact Nat.le_add_left 1 n
  | cons e rest ih =>
    obtain ⟨hasks, hrest⟩ := List.isChain_cons_cons.mp h
    cases n with
    | zero => exact absurd hasks (not_asksFor_of_within hd)
    | succ n => exact Nat.succ_le_succ (ih (hasks.within hd) hrest)

theorem acc_of_within (hd : d.Within n) : Acc (fun e d => scope.AsksFor d e) d := by
  induction n generalizing d with
  | zero => exact ⟨d, fun e he => absurd he (not_asksFor_of_within hd)⟩
  | succ n ih => exact ⟨d, fun e he => ih (he.within hd)⟩

/-- Nothing asks for others without end. -/
theorem wellFounded_asksFor (scope : Scope) : WellFounded fun e d => scope.AsksFor d e :=
  ⟨fun d => acc_of_within (.plain (Nat.le_refl d.depth))⟩

/-! ## Rounds -/

/-- A round gives the same for types that agree on what is asked for. -/
theorem typing_of_asksFor {inline : InlineTyping}
    (h : ∀ e, scope.AsksFor d e → inline e = scope.inlineType e) (context : Context) :
    scope.typing inline d context = scope.typing scope.inlineType d context :=
  (typing_congr (fun d' ho e he => (h e ⟨d', ho, he⟩).symm) context).symm

/-- The types solve the recursion. -/
theorem inlineRound_inlineType (scope : Scope) :
    scope.inlineRound scope.inlineType = scope.inlineType := by
  funext d
  rw [inlineRound, inlineType, generate, attempt_eq]

/-- The recursion has one solution. -/
theorem inlineRound_eq_iff {inline : InlineTyping} :
    scope.inlineRound inline = inline ↔ inline = scope.inlineType := by
  constructor
  · intro h
    funext d
    have hfixed := congrFun (Function.iterate_fixed h (d.depth + 1)) d
    rw [← hfixed, scope.iterate_inlineRound inline (.plain (Nat.le_refl d.depth)) (Nat.lt_succ_self _)]
  · rintro rfl
    exact scope.inlineRound_inlineType

/-- In every context a descriptor is generated from the types of its parts after as many rounds as it needs
levels. -/
theorem attempt_eq_rounds (beyond : InlineTyping) (hd : d.Within n) (context : Context) :
    scope.attempt d context = scope.typing (scope.inlineRound^[n] beyond) d context := by
  rw [attempt_eq]
  refine (typing_of_asksFor (fun e he => ?_) context).symm
  cases n with
  | zero => exact absurd he (not_asksFor_of_within hd)
  | succ n => exact scope.iterate_inlineRound beyond (he.within hd) (Nat.lt_succ_self n)

end Scope

end SchemaTypings
