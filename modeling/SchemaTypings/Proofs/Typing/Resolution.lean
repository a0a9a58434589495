import SchemaTypings.Typing.Reference

/-!
# How references are resolved

A reference is written as its target, but for a bare target that only the shared namespace declares: that
one is written with the shared namespace in front. All that can happen beside is one warning.

* `isBare_or_dotted`: a target has no dot, or a namespace stands before its last one.
* `Scope.Binds`: the targets that are found where they are looked for.
* `Scope.resolve_resolution`: name and report of a reference, what resolving it again does, and what further
  declarations do.
-/

namespace SchemaTypings

/-! ## Dots -/

/-- A name without a dot. -/
def IsBare (name : String) : Prop := '.' ∉ name.toList

theorem IsBare.forall_ne {name : String} (h : IsBare name) :
    ∀ c ∈ name.toList.reverse, decide (c ≠ '.') = true := by
  intro c hc
  rw [decide_eq_true_iff]
  rintro rfl
  exact h (List.mem_reverse.mp hc)

theorem splitAtLastDot?_of_isBare {target : String} (h : IsBare target) :
    splitAtLastDot? target = none := by
  have hdrop : target.toList.reverse.dropWhile (· ≠ '.') = [] := by
    rw [← List.append_nil target.toList.reverse, List.dropWhile_append_of_pos h.forall_ne]
    rfl
  unfold splitAtLastDot?
  simp only [hdrop]

theorem splitAtLastDot?_append {space id : String} (h : IsBare id) :
    splitAtLastDot? (space ++ "." ++ id) = some (space, id) := by
  have hreverse : (space ++ "." ++ id).toList.reverse =
      id.toList.reverse ++ '.' :: space.toList.reverse := by
    simp
  unfold splitAtLastDot?
  dsimp only
  rw [hreverse, List.takeWhile_append_of_pos h.forall_ne, List.dropWhile_append_of_pos h.forall_ne]
  simp

/-- A target is bare, or it has a namespace before its last dot and a bare name behind it. -/
theorem isBare_or_dotted (target : String) :
    IsBare target ∨ ∃ space id, IsBare id ∧ target = space ++ "." ++ id := by
  by_cases h : '.' ∈ target.toList
  · right
    obtain ⟨after, before, hsplit, hafter⟩ := List.eq_append_cons_of_mem (List.mem_reverse.mpr h)
    refine ⟨String.ofList before.reverse, String.ofList after.reverse, ?_, ?_⟩
    · simpa [IsBare] using hafter
    · have hlist : target.toList = before.reverse ++ '.' :: after.reverse := by
        rw [← List.reverse_reverse target.toList, hsplit]
        simp
      apply String.toList_inj.mp
      rw [hlist]
      simp
  · exact .inl h

/-! ## Targets that are found -/

/-- A target in the shared namespace. -/
def sharedName (target : String) : String := sharedNamespace ++ "." ++ target

theorem sharedName_ne (target : String) : sharedName target ≠ target := by
  intro h
  have hlength := congrArg String.length h
  simp [sharedName, sharedNamespace] at hlength

namespace Scope

/-- A name that the namespace itself has for a type. -/
inductive Declares (scope : Scope) (name : String) : Prop
  /-- A type of the namespace in the catalog. -/
  | listed (h : scope.catalog.hasType scope.space name = true)
  /-- A type entry beside the reference. -/
  | beside {d : Descriptor} (hd : d ∈ scope.knownTypes) (hid : d.id = some name)
  /-- A declaration made before that references can point at. -/
  | made {d : Declaration} (hd : d ∈ scope.defined) (ht : d.declaresType = true)
      (hn : d.name = name)

/-- A target that is found where it is looked for. -/
inductive Binds (scope : Scope) : String → Prop
  | dotted {space id : String} (hid : IsBare id) (h : scope.catalog.hasType space id = true) :
      Binds scope (space ++ "." ++ id)
  | bare {name : String} (hname : IsBare name) (h : scope.Declares name) : Binds scope name

/-- A bare target that the namespace does not have, while the shared one does. -/
def Misplaces (scope : Scope) (target : String) : Prop :=
  IsBare target ∧ ¬scope.Declares target ∧ scope.catalog.hasType sharedNamespace target = true

variable {scope : Scope} {target : String}

theorem isLocal_iff : scope.isLocal target = true ↔ scope.Declares target := by
  unfold isLocal isKnown isDefined
  rw [Bool.or_eq_true, Bool.or_eq_true, List.any_eq_true, List.any_eq_true]
  constructor
  · rintro ((h | ⟨d, hd, hid⟩) | ⟨d, hd, h⟩)
    · exact .listed h
    · exact .beside hd (beq_iff_eq.mp hid)
    · rw [Bool.and_eq_true, beq_iff_eq] at h
      exact .made hd h.1 h.2
  · rintro (h | ⟨hd, hid⟩ | ⟨hd, ht, hn⟩)
    · exact .inl (.inl h)
    · exact .inl (.inr ⟨_, hd, beq_iff_eq.mpr hid⟩)
    · exact .inr ⟨_, hd, by rw [ht, hn, beq_self_eq_true, Bool.and_self]⟩

theorem Declares.mono {other : List Declaration} (h : scope.Declares target)
    (hsub : scope.defined ⊆ other) : { scope with defined := other }.Declares target := by
  cases h with
  | listed h => exact .listed h
  | beside hd hid => exact .beside hd hid
  | made hd ht hn => exact .made (hsub hd) ht hn

theorem binds_iff_of_isBare (h : IsBare target) : scope.Binds target ↔ scope.Declares target := by
  refine ⟨fun hb => ?_, .bare h⟩
  cases hb with
  | dotted => exact absurd (by simp) h
  | bare _ hd => exact hd

theorem binds_dotted_iff {space id : String} (hid : IsBare id) :
    scope.Binds (space ++ "." ++ id) ↔ scope.catalog.hasType space id = true := by
  refine ⟨fun hb => ?_, .dotted hid⟩
  generalize htarget : space ++ "." ++ id = target at hb
  cases hb with
  | dotted hother h =>
    have hparts := (splitAtLastDot?_append hid).symm.trans
      ((congrArg splitAtLastDot? htarget).trans (splitAtLastDot?_append hother))
    cases hparts
    exact h
  | bare hname => exact absurd (by simp [← htarget]) hname

theorem Binds.mono {other : List Declaration} (h : scope.Binds target)
    (hsub : scope.defined ⊆ other) : { scope with defined := other }.Binds target := by
  cases h with
  | dotted hid h => exact .dotted hid h
  | bare hname h => exact .bare hname (h.mono hsub)

theorem Misplaces.not_binds (h : scope.Misplaces target) : ¬scope.Binds target :=
  fun hb => h.2.1 ((binds_iff_of_isBare h.1).mp hb)

/-- The shared namespace has what is written with it in front. -/
theorem Misplaces.binds_sharedName (h : scope.Misplaces target) : scope.Binds (sharedName target) :=
  .dotted h.1 h.2.2

/-! ## One resolution -/

/-- The namespace in which a target is looked for first. -/
def place (scope : Scope) (target : String) : String :=
  match splitAtLastDot? target with
  | some (space, _) => space
  | none => scope.space

/-- What a resolution comes to. -/
inductive Resolved (scope : Scope) (target : String) (found : Reporting String) : Prop
  | bound (h : scope.Binds target) (hvalue : found.value = target) (hreport : found.diagnostics = [])
  | misplaced (h : scope.Misplaces target) (hvalue : found.value = sharedName target)
      (hreport : found.diagnostics =
        [⟨.warning, some scope.space, .misplacedReference target scope.space sharedNamespace⟩])
  | missing (h : ¬scope.Binds target) (hm : ¬scope.Misplaces target) (hvalue : found.value = target)
      (hreport : found.diagnostics =
        [⟨.warning, some scope.space, .danglingReference target (scope.place target)⟩])

theorem resolve_dotted {space id : String} (hid : IsBare id) :
    scope.Resolved (space ++ "." ++ id) (scope.resolve (space ++ "." ++ id)) := by
  have hsplit : splitAtLastDot? (space ++ "." ++ id) = some (space, id) := splitAtLastDot?_append hid
  have hmisplaces : ¬scope.Misplaces (space ++ "." ++ id) := fun h => absurd (by simp) h.1
  unfold resolve
  rw [hsplit]
  dsimp only
  by_cases hfound : scope.catalog.hasType space id = true
  · rw [if_neg (by simp [hfound])]
    exact .bound (.dotted hid hfound) rfl rfl
  · rw [if_pos (by simp [hfound])]
    refine .missing (mt (binds_dotted_iff hid).mp hfound) hmisplaces rfl ?_
    rw [place, hsplit]
    rfl

theorem resolve_bare (h : IsBare target) : scope.Resolved target (scope.resolve target) := by
  have hsplit := splitAtLastDot?_of_isBare h
  unfold resolve
  rw [hsplit]
  dsimp only
  by_cases hlocal : scope.Declares target
  · rw [if_pos (isLocal_iff.mpr hlocal)]
    exact .bound (.bare h hlocal) rfl rfl
  · rw [if_neg (mt isLocal_iff.mp hlocal)]
    by_cases hshared : scope.catalog.hasType sharedNamespace target = true
    · rw [if_pos hshared]
      exact .misplaced ⟨h, hlocal, hshared⟩ rfl rfl
    · rw [if_neg hshared]
      refine .missing (mt (binds_iff_of_isBare h).mp hlocal) (fun hm => hshared hm.2.2) rfl ?_
      rw [place, hsplit]
      rfl

theorem resolve_resolved (scope : Scope) (target : String) :
    scope.Resolved target (scope.resolve target) := by
  rcases isBare_or_dotted target with h | ⟨space, id, hid, rfl⟩
  · exact resolve_bare h
  · exact resolve_dotted hid

theorem value_resolve_of_binds (h : scope.Binds target) : (scope.resolve target).value = target := by
  cases scope.resolve_resolved target with
  | bound _ hvalue => exact hvalue
  | misplaced hm => exact absurd h hm.not_binds
  | missing hn => exact absurd h hn

theorem diagnostics_resolve_eq_nil_iff :
    (scope.resolve target).diagnostics = [] ↔ scope.Binds target := by
  cases scope.resolve_resolved target with
  | bound h _ hreport => exact iff_of_true hreport h
  | misplaced h _ hreport => exact iff_of_false (by rw [hreport]; nofun) h.not_binds
  | missing h _ _ hreport => exact iff_of_false (by rw [hreport]; nofun) h

theorem value_resolve_eq_sharedName_iff :
    (scope.resolve target).value = sharedName target ↔ scope.Misplaces target := by
  have hkept : (scope.resolve target).value = target →
      (scope.resolve target).value ≠ sharedName target :=
    fun hvalue hs => sharedName_ne target (hs.symm.trans hvalue)
  cases scope.resolve_resolved target with
  | bound h hvalue => exact iff_of_false (hkept hvalue) fun hm => hm.not_binds h
  | misplaced h hvalue => exact iff_of_true hvalue h
  | missing _ hm hvalue => exact iff_of_false (hkept hvalue) hm

/-- What was written once is written again. -/
theorem resolve_again (scope : Scope) (target : String) :
    (scope.resolve (scope.resolve target).value).value = (scope.resolve target).value := by
  cases scope.resolve_resolved target with
  | bound _ hvalue => rw [hvalue, hvalue]
  | misplaced h hvalue => rw [hvalue, value_resolve_of_binds h.binds_sharedName]
  | missing _ _ hvalue => rw [hvalue, hvalue]

/-- Behind further declarations there is the same report or none. -/
theorem diagnostics_resolve_sublist {other : List Declaration} (hsub : scope.defined ⊆ other) :
    ({ scope with defined := other }.resolve target).diagnostics.Sublist
      (scope.resolve target).diagnostics := by
  have hbehind := { scope with defined := other }.resolve_resolved target
  cases scope.resolve_resolved target with
  | bound h =>
    rw [diagnostics_resolve_eq_nil_iff.mpr (h.mono hsub)]
    exact List.nil_sublist _
  | misplaced h _ hreport =>
    cases hbehind with
    | bound _ _ hnone =>
      rw [hnone]
      exact List.nil_sublist _
    | misplaced _ _ hagain =>
      have hsame := hreport.trans hagain.symm
      exact hsame ▸ List.Sublist.refl _
    | missing hn hm =>
      exact absurd ⟨h.1, mt (binds_iff_of_isBare h.1).mpr hn, h.2.2⟩ hm
  | missing _ hm _ hreport =>
    cases hbehind with
    | bound _ _ hnone =>
      rw [hnone]
      exact List.nil_sublist _
    | misplaced h =>
      exact absurd ⟨h.1, fun hd => h.2.1 (hd.mono hsub), h.2.2⟩ hm
    | missing _ _ _ hagain =>
      have hsame := hreport.trans hagain.symm
      exact hsame ▸ List.Sublist.refl _

/-! ## The policy -/

/-- How a target is resolved. -/
structure Resolution (scope : Scope) (target : String) (found : Reporting String) : Prop where
  /-- The target stays as it is, or a bare one is written in the shared namespace, -/
  written : found.value = target ∨ IsBare target ∧ found.value = sharedName target
  /-- and this happens exactly where the shared namespace has it and the own one has not. -/
  moved_iff : found.value = sharedName target ↔ scope.Misplaces target
  /-- There is at most one diagnostic, -/
  reportedOnce : found.diagnostics.length ≤ 1
  /-- a warning of the namespace, -/
  warned : ∀ x ∈ found.diagnostics, x.severity = .warning ∧ x.space = some scope.space
  /-- and there is none exactly for a target that is found where it is looked for. -/
  silent_iff : found.diagnostics = [] ↔ scope.Binds target
  /-- Resolving the result changes nothing, -/
  again : (scope.resolve found.value).value = found.value
  /-- and where the target was written differently there is nothing more to report. -/
  againSilent : found.value ≠ target → (scope.resolve found.value).diagnostics = []
  /-- Further declarations add no diagnostic. -/
  extended : ∀ other : List Declaration, scope.defined ⊆ other →
    ({ scope with defined := other }.resolve target).diagnostics.Sublist found.diagnostics

/-- **Every target is resolved by the same policy.** -/
theorem resolve_resolution (scope : Scope) (target : String) :
    scope.Resolution target (scope.resolve target) where
  written := by
    cases scope.resolve_resolved target with
    | bound _ hvalue => exact .inl hvalue
    | misplaced h hvalue => exact .inr ⟨h.1, hvalue⟩
    | missing _ _ hvalue => exact .inl hvalue
  moved_iff := value_resolve_eq_sharedName_iff
  reportedOnce := by
    cases scope.resolve_resolved target with
    | bound _ _ hreport => exact hreport ▸ Nat.zero_le 1
    | misplaced _ _ hreport => exact hreport ▸ Nat.le_refl 1
    | missing _ _ _ hreport => exact hreport ▸ Nat.le_refl 1
  warned := by
    cases scope.resolve_resolved target with
    | bound _ _ hreport => exact hreport ▸ List.forall_mem_nil _
    | misplaced _ _ hreport => exact hreport ▸ List.forall_mem_singleton.mpr ⟨rfl, rfl⟩
    | missing _ _ _ hreport => exact hreport ▸ List.forall_mem_singleton.mpr ⟨rfl, rfl⟩
  silent_iff := diagnostics_resolve_eq_nil_iff
  again := scope.resolve_again target
  againSilent := by
    intro hne
    cases scope.resolve_resolved target with
    | bound _ hvalue => exact absurd hvalue hne
    | misplaced h hvalue =>
      rw [hvalue]
      exact diagnostics_resolve_eq_nil_iff.mpr h.binds_sharedName
    | missing _ _ hvalue => exact absurd hvalue hne
  extended := fun _ => diagnostics_resolve_sublist

end Scope

end SchemaTypings
