import SchemaTypings.Proofs.Descriptor.Override
import SchemaTypings.Proofs.Typing.Diagnostics
import SchemaTypings.Proofs.Typing.Object
import SchemaTypings.Proofs.Variants.Positions
import SchemaTypings.Typing.Function

/-!
# Parameters that become types

A parameter that is an object with properties becomes a type of the namespace and a reference to it,
unless its name is taken, when the reference points at what is there.

* `hoistParam_cases`: all that one parameter can come to.
* `hoistParams_outline`: names and optional markers stay, so the variants stay.
* `hoistParams_made`: what is made is a list of types under different names, none of them taken
  before.
-/

namespace SchemaTypings.FunctionTyping

open ObjectTyping (objectParts namedBody value_declaration_object)

variable {functionName : String} {scope : Scope}

/-! ## One parameter -/

/-- What a parameter can come to, with the declarations made so far. -/
inductive Hoisted (functionName : String) (scope : Scope) (made : List Declaration)
    (p : Descriptor) : Descriptor × List Declaration → Prop
  /-- It stays, and nothing is made. -/
  | kept : Hoisted functionName scope made p (p, made)
  /-- It becomes a reference to what has the name already. -/
  | reused {paramName : String} (hname : p.name = some paramName) (hp : isHoistable p = true)
      (taken : isTaken scope made (hoistedName functionName paramName) = true) :
      Hoisted functionName scope made p
        (p.asReferenceTo (hoistedName functionName paramName), made)
  /-- It becomes a reference to a declaration of its own. -/
  | own {paramName : String} {d : Declaration} (hname : p.name = some paramName)
      (hp : isHoistable p = true)
      (free : isTaken scope made (hoistedName functionName paramName) = false)
      (hd : (scope.declaration (asNamedType p (hoistedName functionName paramName))
        .namespace).value = some d) :
      Hoisted functionName scope made p
        (p.asReferenceTo (hoistedName functionName paramName), made ++ [d])

theorem hoistParam_cases (functionName : String) (scope : Scope) (made : List Declaration)
    (p : Descriptor) :
    Hoisted functionName scope made p (hoistParam functionName scope made p).value := by
  unfold hoistParam
  cases hname : p.name with
  | none => exact .kept
  | some paramName =>
    dsimp only
    by_cases hp : isHoistable p = true
    · rw [if_neg (by simp [hp])]
      by_cases taken : isTaken scope made (hoistedName functionName paramName) = true
      · rw [if_pos taken]
        exact .reused hname hp taken
      · rw [if_neg taken, Reporting.value_bind]
        cases hd : (scope.declaration (asNamedType p (hoistedName functionName paramName))
            .namespace).value with
        | none => exact .kept
        | some d => exact .own hname hp (by simpa using taken) hd
    · rw [if_pos (by simpa using hp)]
      exact .kept

theorem Hoisted.outline {made : List Declaration} {p : Descriptor}
    {result : Descriptor × List Declaration} (h : Hoisted functionName scope made p result) :
    Variants.outline result.1 = Variants.outline p := by
  cases h <;> rfl

theorem hoistParam_reports {P : Diagnostic → Prop} (own : scope.Admits P)
    (made : List Declaration) (p : Descriptor) :
    (hoistParam functionName scope made p).Reports P := by
  unfold hoistParam
  cases p.name with
  | none => exact Reporting.reports_pure _
  | some paramName =>
    dsimp only
    split
    · exact Reporting.reports_pure _
    · split
      · exact Reporting.reports_pure _
      · refine (Scope.declaration_reports own _ _).bind ?_
        cases (scope.declaration (asNamedType p (hoistedName functionName paramName))
          .namespace).value <;> exact Reporting.reports_pure _

/-! ## The declaration of a parameter -/

theorem kind?_of_isHoistable {p : Descriptor} (h : isHoistable p = true) :
    p.kind? = some .object := by
  unfold isHoistable at h
  split at h
  next hk => exact hk
  next => cases h

theorem objectParts_asNamedType (scope : Scope) (p : Descriptor) (name : String) :
    objectParts scope (asNamedType p name) = objectParts scope p := by
  have hdepth : (asNamedType p name).depth = p.depth := by
    cases p
    simp only [asNamedType, Descriptor.depth]
  unfold objectParts
  rw [hdepth, ObjectTyping.value_members, ObjectTyping.value_members]
  simp only [ObjectTyping.value_propertyMember, ObjectTyping.value_patternType,
    ObjectTyping.value_methodMembers]
  rfl

theorem kind?_asNamedType {p : Descriptor} (hp : isHoistable p = true) (name : String) :
    (asNamedType p name).kind? = some .object := by
  rw [← kind?_of_isHoistable hp]
  rfl

theorem overridden_asNamedType {p : Descriptor} (hp : isHoistable p = true) (name : String) :
    (asNamedType p name).overridden? = none ∨
      (asNamedType p name).overridden? = some (asNamedType p name) := by
  cases h : (asNamedType p name).overridden? with
  | none => exact .inl rfl
  | some d =>
    exact .inr (congrArg some (Descriptor.overridden_of_object (kind?_asNamedType hp name) h))

/-- The declaration that a parameter gets, if it is not skipped under its new name. -/
def ownDeclaration (scope : Scope) (p : Descriptor) (name : String) : Declaration :=
  p.declared name (namedBody p (objectParts scope p).1 (objectParts scope p).2)

theorem eq_ownDeclaration {p : Descriptor} {name : String} {d : Declaration}
    (hp : isHoistable p = true)
    (hd : (scope.declaration (asNamedType p name) .namespace).value = some d) :
    d = ownDeclaration scope p name := by
  rcases overridden_asNamedType hp name with ho | ho
  · rw [Scope.value_declaration, Scope.attempt, Scope.value_typing_skipped ho] at hd
    cases hd
  · rw [value_declaration_object (kind?_asNamedType hp name) ho rfl, objectParts_asNamedType] at hd
    exact (Option.some.inj hd).symm

theorem name_ownDeclaration (scope : Scope) (p : Descriptor) (name : String) :
    (ownDeclaration scope p name).name = name := rfl

theorem inTypeSpace_ownDeclaration (scope : Scope) (p : Descriptor) (name : String) :
    (ownDeclaration scope p name).inTypeSpace = true := by
  unfold Declaration.inTypeSpace ownDeclaration Descriptor.declared namedBody
  by_cases h : (p.isInstanceOf.isNone && (objectParts scope p).2.isNone) = true
  · simp only [if_pos h]
  · simp only [if_neg h]

/-! ## All parameters -/

theorem hoistParams_cons (functionName : String) (scope : Scope) (made : List Declaration)
    (p : Descriptor) (rest : List Descriptor) :
    (hoistParams functionName scope made (p :: rest)).value =
      let first := (hoistParam functionName scope made p).value
      let others := (hoistParams functionName scope first.2 rest).value
      (first.1 :: others.1, others.2) := rfl

theorem hoistParams_reports {P : Diagnostic → Prop} (own : scope.Admits P)
    (made : List Declaration) (ps : List Descriptor) :
    (hoistParams functionName scope made ps).Reports P := by
  induction ps generalizing made with
  | nil => exact Reporting.reports_pure _
  | cons p rest ih =>
    exact (hoistParam_reports own made p).bind ((ih _).bind (Reporting.reports_pure _))

/-- **Hoisting changes neither names nor optional markers.** -/
theorem hoistParams_outline (made : List Declaration) (ps : List Descriptor) :
    (hoistParams functionName scope made ps).value.1.map Variants.outline =
      ps.map Variants.outline := by
  induction ps generalizing made with
  | nil => rfl
  | cons p rest ih =>
    rw [hoistParams_cons, List.map_cons, List.map_cons, ih,
      (hoistParam_cases functionName scope made p).outline]

/-- Every parameter stays or becomes a reference. -/
theorem forall_mem_hoistParams {P : Descriptor → Prop} {made : List Declaration}
    {ps : List Descriptor} (hkept : ∀ p ∈ ps, P p)
    (hreference : ∀ p ∈ ps, ∀ name, P (p.asReferenceTo name)) :
    ∀ p ∈ (hoistParams functionName scope made ps).value.1, P p := by
  induction ps generalizing made with
  | nil =>
    intro p hp
    cases hp
  | cons q rest ih =>
    intro p hp
    rw [hoistParams_cons] at hp
    rcases List.mem_cons.mp hp with rfl | hp
    · have hcases := hoistParam_cases functionName scope made q
      generalize (hoistParam functionName scope made q).value = result at hcases
      cases hcases with
      | kept => exact hkept q List.mem_cons_self
      | reused => exact hreference q List.mem_cons_self _
      | own => exact hreference q List.mem_cons_self _
    · exact ih (fun r hr => hkept r (List.mem_cons_of_mem q hr))
        (fun r hr => hreference r (List.mem_cons_of_mem q hr)) p hp

/-- What has been made for parameters: declarations of their own, under different names that were
free. -/
structure Made (scope : Scope) (ps : List Descriptor) (made : List Declaration) : Prop where
  own : ∀ d ∈ made, ∃ p ∈ ps, isHoistable p = true ∧ d = ownDeclaration scope p d.name
  free : ∀ d ∈ made, scope.isDefined d.name = false
  distinct : (made.map (·.name)).Nodup

theorem made_nil (scope : Scope) (ps : List Descriptor) : Made scope ps [] :=
  ⟨fun _ h => absurd h List.not_mem_nil, fun _ h => absurd h List.not_mem_nil, List.nodup_nil⟩

theorem Made.inTypeSpace {ps : List Descriptor} {made : List Declaration} (h : Made scope ps made)
    {d : Declaration} (hd : d ∈ made) : d.inTypeSpace = true := by
  obtain ⟨p, -, -, he⟩ := h.own d hd
  rw [he]
  exact inTypeSpace_ownDeclaration scope p d.name

theorem Made.append {ps : List Descriptor} {made : List Declaration} (h : Made scope ps made)
    {p : Descriptor} (hmem : p ∈ ps) (hp : isHoistable p = true) {name : String}
    (free : isTaken scope made name = false) :
    Made scope ps (made ++ [ownDeclaration scope p name]) := by
  unfold isTaken at free
  rw [Bool.or_eq_false_iff] at free
  refine ⟨fun d hd => ?_, fun d hd => ?_, ?_⟩
  · rcases List.mem_append.mp hd with hd | hd
    · exact h.own d hd
    · rw [List.mem_singleton] at hd
      subst hd
      exact ⟨p, hmem, hp, rfl⟩
  · rcases List.mem_append.mp hd with hd | hd
    · exact h.free d hd
    · rw [List.mem_singleton] at hd
      subst hd
      exact free.1
  · rw [List.map_append, List.nodup_append]
    refine ⟨h.distinct, by simp, fun a ha b hb => ?_⟩
    obtain ⟨d, hd, rfl⟩ := List.mem_map.mp ha
    rw [List.map_singleton, List.mem_singleton] at hb
    have hne := List.any_eq_false.mp free.2 d hd
    intro he
    exact hne (by rw [he, hb, name_ownDeclaration, beq_self_eq_true])

theorem hoistParam_made {ps : List Descriptor} {made : List Declaration} (h : Made scope ps made)
    {p : Descriptor} (hmem : p ∈ ps) :
    Made scope ps (hoistParam functionName scope made p).value.2 := by
  generalize hr : (hoistParam functionName scope made p).value = result
  have hcases := hoistParam_cases functionName scope made p
  rw [hr] at hcases
  cases hcases with
  | kept => exact h
  | reused => exact h
  | own _ hp free hd =>
    rw [eq_ownDeclaration hp hd]
    exact h.append hmem hp free

theorem hoistParams_made {ps qs : List Descriptor} {made : List Declaration}
    (h : Made scope ps made) (hsub : ∀ q ∈ qs, q ∈ ps) :
    Made scope ps (hoistParams functionName scope made qs).value.2 := by
  induction qs generalizing made with
  | nil => exact h
  | cons q rest ih =>
    rw [hoistParams_cons]
    exact ih (hoistParam_made h (hsub q List.mem_cons_self))
      fun r hr => hsub r (List.mem_cons_of_mem _ hr)

/-! ## At a position -/

theorem isTaken_append (made new : List Declaration) (name : String) :
    isTaken scope (made ++ new) name = (isTaken scope made name || new.any (·.name == name)) := by
  rw [isTaken, isTaken, List.any_append, Bool.or_assoc]

/-- Nothing is made under a name that is taken. -/
theorem hoistParams_extends (functionName : String) (scope : Scope) (made : List Declaration)
    (ps : List Descriptor) :
    ∃ new, (hoistParams functionName scope made ps).value.2 = made ++ new ∧
      ∀ d ∈ new, isTaken scope made d.name = false := by
  induction ps generalizing made with
  | nil => exact ⟨[], (List.append_nil made).symm, fun _ h => absurd h List.not_mem_nil⟩
  | cons p rest ih =>
    rw [hoistParams_cons]
    dsimp only
    have hcases := hoistParam_cases functionName scope made p
    generalize (hoistParam functionName scope made p).value = result at hcases
    cases hcases with
    | kept => exact ih made
    | reused => exact ih made
    | own hname hp free hd =>
      obtain ⟨new, he, hnew⟩ := ih (made ++ [_])
      refine ⟨_ :: new, he.trans (List.append_assoc _ _ _), fun e hmem => ?_⟩
      rcases List.mem_cons.mp hmem with rfl | hmem
      · rw [eq_ownDeclaration hp hd]
        exact free
      · have hfree := hnew e hmem
        rw [isTaken_append, Bool.or_eq_false_iff] at hfree
        exact hfree.1

/-- The declarations made for the parameters before a position. -/
def madeBefore (functionName : String) (scope : Scope) (made : List Declaration)
    (ps : List Descriptor) (i : Nat) : List Declaration :=
  (hoistParams functionName scope made (ps.take i)).value.2

/-- What stands at a position comes from the parameter there, and nothing is made behind it under a
name that is taken then. -/
theorem hoistParams_getElem? (functionName : String) (scope : Scope) (made : List Declaration)
    {ps : List Descriptor} {i : Nat} {p : Descriptor} (hp : ps[i]? = some p) :
    ∃ result new, Hoisted functionName scope (madeBefore functionName scope made ps i) p result ∧
      (hoistParams functionName scope made ps).value.1[i]? = some result.1 ∧
      (hoistParams functionName scope made ps).value.2 = result.2 ++ new ∧
      ∀ d ∈ new, isTaken scope result.2 d.name = false := by
  induction ps generalizing made i with
  | nil => cases hp
  | cons q rest ih =>
    rw [hoistParams_cons]
    cases i with
    | zero =>
      cases hp
      obtain ⟨new, he, hnew⟩ := hoistParams_extends functionName scope
        (hoistParam functionName scope made p).value.2 rest
      exact ⟨_, new, hoistParam_cases functionName scope made p, rfl, he, hnew⟩
    | succ i => exact ih (hoistParam functionName scope made q).value.2 hp

end SchemaTypings.FunctionTyping
