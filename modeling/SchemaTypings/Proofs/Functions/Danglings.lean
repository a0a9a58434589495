import SchemaTypings.Proofs.Functions.Hoisting
import SchemaTypings.Proofs.Typing.Repeats

/-!
# Dangling references and hoisted parameters

A parameter that becomes a type is a reference to that type in every signature. A dangling reference in
the parameter is reported with the type then, and the reference to the type itself is found: it is reported
in one of the two places, or in the signatures alone if the parameter stays as it is.

* `danglings_hoistParams`: what is reported for the types and what is left in the parameters is together
  at most what was in the parameters.
-/

namespace SchemaTypings

namespace Scope

variable {scope : Scope}

/-! ## More declarations -/

theorem isLocal_extend (scope : Scope) (made : List Declaration) (target : String) :
    (scope.extend made).isLocal target =
      (scope.isLocal target || made.any fun d => d.declaresType && d.name == target) := by
  unfold isLocal isDefined extend
  rw [List.any_append, Bool.or_assoc, Bool.or_assoc, Bool.or_assoc]
  rfl

/-- A reference that is dangling behind further declarations was so before. -/
theorem isMissing_of_extend {made : List Declaration} {target : String}
    (h : (scope.extend made).isMissing target = true) : scope.isMissing target = true := by
  unfold isMissing at h ⊢
  cases hs : splitAtLastDot? target with
  | some parts =>
    rw [hs] at h
    exact h
  | none =>
    rw [hs, isLocal_extend] at h
    dsimp only at h ⊢
    rw [Bool.and_eq_true, Bool.not_eq_true', Bool.or_eq_false_iff] at h
    rw [Bool.and_eq_true, Bool.not_eq_true']
    exact ⟨h.1.1, h.2⟩

theorem isDangling_of_extend {made : List Declaration} {d : Descriptor}
    (h : (scope.extend made).isDangling d = true) : scope.isDangling d = true := by
  unfold isDangling at h ⊢
  split at h
  · exact isMissing_of_extend h
  · cases h

theorem danglings_extend_le (scope : Scope) (made : List Declaration) (ds : List Descriptor) :
    (scope.extend made).danglings ds ≤ scope.danglings ds :=
  List.countP_mono_left fun _ _ h => isDangling_of_extend h

theorem danglingsIn_extend_le (scope : Scope) (made : List Declaration) (ds : List Descriptor) :
    (scope.extend made).danglingsIn ds ≤ scope.danglingsIn ds :=
  scope.danglings_extend_le made (ds.flatMap Descriptor.nodes)

theorem SingleMethods.extend {d : Descriptor} (h : scope.SingleMethods d)
    (made : List Declaration) : (scope.extend made).SingleMethods d := by
  intro x hx f hf
  rcases h x hx f hf with hnone | hone
  · have hle := scope.danglings_extend_le made f.nodes
    left
    omega
  · exact .inr hone

/-- A reference by a bare name to a type that has been declared is found. -/
theorem not_isMissing_of_isDefined {name : String} (hbare : splitAtLastDot? name = none)
    (h : scope.isDefined name = true) : scope.isMissing name = false := by
  unfold isMissing isLocal
  rw [hbare]
  simp only [h, Bool.or_true, Bool.not_true, Bool.false_and]

end Scope

namespace FunctionTyping

variable {functionName : String} {scope : Scope}

/-! ## The reference to a type -/

theorem children_asReferenceTo (p : Descriptor) (name : String) :
    (p.asReferenceTo name).children = [] := rfl

theorem danglingsIn_asReferenceTo {p : Descriptor} {name : String}
    (h : scope.isMissing name = false) : scope.danglingsIn [p.asReferenceTo name] = 0 := by
  have hself : scope.isDangling (p.asReferenceTo name) = false := h
  rw [scope.danglingsIn_eq, children_asReferenceTo, Scope.danglingsIn_nil, Scope.danglings,
    List.countP_singleton, hself]
  rfl

theorem singleMethods_asReferenceTo (scope : Scope) (p : Descriptor) (name : String) :
    scope.SingleMethods (p.asReferenceTo name) := by
  refine Scope.singleMethods_iff.mpr ⟨fun f hf => ?_, fun c hc => ?_⟩
  · cases hf
  · cases hc

/-- A name that is taken stands for a type in the end. -/
theorem isDefined_of_isTaken {made final : List Declaration} {name : String}
    (h : isTaken scope made name = true) (hsub : ∀ d ∈ made, d ∈ final)
    (htypes : ∀ d ∈ made, d.inTypeSpace = true) : (scope.extend final).isDefined name = true := by
  unfold Scope.isDefined Scope.extend
  rw [List.any_append, Bool.or_eq_true]
  unfold isTaken at h
  rcases Bool.or_eq_true_iff.mp h with h | h
  · exact .inl h
  · obtain ⟨d, hd, hname⟩ := List.any_eq_true.mp h
    refine .inr (List.any_eq_true.mpr ⟨d, hsub d hd, ?_⟩)
    rw [Declaration.declaresType_iff.mpr (.inl (htypes d hd)), hname]
    rfl

/-! ## The type of a parameter -/

/-- The type of a parameter reports at most what is in the parameter. -/
theorem danglings_declaration_le {p : Descriptor} (hp : isHoistable p = true)
    (h : scope.SingleMethods p) (name : String) :
    (scope.declaration (asNamedType p name) .namespace).danglings ≤ scope.danglingsIn [p] := by
  have hsame : scope.danglingsIn (asNamedType p name).children = scope.danglingsIn p.children := rfl
  have hsingle : scope.SingleMethods (asNamedType p name) := by
    rw [Scope.singleMethods_iff] at h ⊢
    exact h
  have hbelow := scope.danglingsIn_children_le p
  unfold Scope.declaration Scope.generate Scope.attempt
  rw [Reporting.danglings_bind, Scope.danglings_contain, Scope.typing]
  rcases overridden_asNamedType hp name with ho | ho
  · rw [ho]
    exact Nat.zero_le _
  · have hk := kind?_asNamedType hp name
    rw [ho]
    dsimp only
    rw [hk]
    dsimp only
    rw [ExceptT.run_map, Reporting.danglings_map, Reporting.danglings_pure]
    generalize hlevels : (asNamedType p name).depth = levels
    have hreport : ((asNamedType p name).kindTyping (scope.inlineWithin levels) scope .object
        .namespace).run.danglings =
          InlineTyping.danglings (scope.inlineWithin levels)
            ((asNamedType p name).asked (scope.inlineWithin levels)) := by
      unfold Descriptor.asked
      rw [hk]
      exact ObjectTyping.danglings_typing rfl
    have hasked : scope.danglingsIn ((asNamedType p name).asked (scope.inlineWithin levels)) ≤
        scope.danglingsIn (asNamedType p name).children := Scope.danglingsIn_asked hsingle
    have hvisits : scope.danglings (((asNamedType p name).asked (scope.inlineWithin levels)).flatMap
        (scope.visitedWithin levels)) ≤
          scope.danglingsIn ((asNamedType p name).asked (scope.inlineWithin levels)) :=
      Scope.danglings_asked_le levels (Scope.singleMethods_asked hsingle)
    rw [hreport, Scope.danglings_of_visits (scope.danglings_inlineWithin levels)]
    omega

/-- A parameter that is not declared after all is skipped, and reports nothing. -/
theorem danglings_declaration_of_none {p : Descriptor} (hp : isHoistable p = true) {name : String}
    (h : (scope.declaration (asNamedType p name) .namespace).value = none) :
    (scope.declaration (asNamedType p name) .namespace).danglings = 0 := by
  rcases overridden_asNamedType hp name with ho | ho
  · unfold Scope.declaration Scope.generate Scope.attempt
    rw [Reporting.danglings_bind, Scope.danglings_contain, Scope.typing, ho]
    rfl
  · rw [ObjectTyping.value_declaration_object (kind?_asNamedType hp name) ho rfl] at h
    cases h

/-! ## Parameters -/

/-- The names of the types that parameters may become have no dot. -/
def BareNames (functionName : String) (ps : List Descriptor) : Prop :=
  ∀ p ∈ ps, ∀ paramName, p.name = some paramName → isHoistable p = true →
    splitAtLastDot? (hoistedName functionName paramName) = none

/-- One parameter: the type takes what was in the parameter, or the parameter keeps it. -/
theorem danglings_hoistParam {made final : List Declaration} {p : Descriptor}
    (hp : scope.SingleMethods p) (hbare : BareNames functionName [p])
    (hsub : ∀ d ∈ (hoistParam functionName scope made p).value.2, d ∈ final)
    (htypes : ∀ d ∈ (hoistParam functionName scope made p).value.2, d.inTypeSpace = true) :
    (hoistParam functionName scope made p).danglings +
      (scope.extend final).danglingsIn [(hoistParam functionName scope made p).value.1] ≤
        scope.danglingsIn [p] := by
  have hkept := scope.danglingsIn_extend_le final [p]
  unfold hoistParam at hsub htypes ⊢
  cases hname : p.name with
  | none =>
    show 0 + (scope.extend final).danglingsIn [p] ≤ _
    omega
  | some paramName =>
    rw [hname] at hsub htypes
    dsimp only at hsub htypes ⊢
    by_cases hh : isHoistable p = true
    · have hname := hbare p (List.mem_singleton_self p) paramName hname hh
      have hfound : ∀ {made : List Declaration},
          isTaken scope made (hoistedName functionName paramName) = true →
          (∀ d ∈ made, d ∈ final) → (∀ d ∈ made, d.inTypeSpace = true) →
          (scope.extend final).danglingsIn
            [p.asReferenceTo (hoistedName functionName paramName)] = 0 := by
        intro made htaken hsub htypes
        apply danglingsIn_asReferenceTo
        exact Scope.not_isMissing_of_isDefined hname (isDefined_of_isTaken htaken hsub htypes)
      rw [if_neg (by simp [hh])] at hsub htypes ⊢
      by_cases htaken : isTaken scope made (hoistedName functionName paramName) = true
      · rw [if_pos htaken] at hsub htypes ⊢
        have hzero := hfound htaken hsub htypes
        show 0 + (scope.extend final).danglingsIn
          [p.asReferenceTo (hoistedName functionName paramName)] ≤ _
        omega
      · rw [if_neg htaken] at hsub htypes ⊢
        have hdeclared := danglings_declaration_le hh hp (hoistedName functionName paramName)
        rw [Reporting.danglings_bind]
        rw [Reporting.value_bind] at hsub htypes ⊢
        cases hd : (scope.declaration (asNamedType p (hoistedName functionName paramName))
            .namespace).value with
        | none =>
          have hzero := danglings_declaration_of_none hh hd
          show _ + 0 + (scope.extend final).danglingsIn [p] ≤ _
          omega
        | some d =>
          rw [hd] at hsub htypes
          have hown : isTaken scope (made ++ [d]) (hoistedName functionName paramName) = true := by
            rw [isTaken_append, eq_ownDeclaration hh hd]
            simp [name_ownDeclaration]
          have hzero := hfound hown hsub htypes
          show _ + 0 + (scope.extend final).danglingsIn
            [p.asReferenceTo (hoistedName functionName paramName)] ≤ _
          omega
    · rw [if_pos (by simpa using hh)]
      show 0 + (scope.extend final).danglingsIn [p] ≤ _
      omega

/-- **What the types of the parameters report and what is left in the parameters** is together at most
what was in the parameters. -/
theorem danglings_hoistParams {made final : List Declaration} {ps : List Descriptor}
    (hps : ∀ p ∈ ps, scope.SingleMethods p) (hbare : BareNames functionName ps)
    (hsub : ∀ d ∈ (hoistParams functionName scope made ps).value.2, d ∈ final)
    (htypes : ∀ d ∈ (hoistParams functionName scope made ps).value.2, d.inTypeSpace = true) :
    (hoistParams functionName scope made ps).danglings +
      (scope.extend final).danglingsIn (hoistParams functionName scope made ps).value.1 ≤
        scope.danglingsIn ps := by
  induction ps generalizing made with
  | nil => exact Nat.le_refl 0
  | cons p rest ih =>
    rw [hoistParams_cons] at hsub htypes ⊢
    dsimp only at hsub htypes ⊢
    obtain ⟨new, hnew, -⟩ := hoistParams_extends functionName scope
      (hoistParam functionName scope made p).value.2 rest
    have hkeep : ∀ d ∈ (hoistParam functionName scope made p).value.2,
        d ∈ (hoistParams functionName scope (hoistParam functionName scope made p).value.2
          rest).value.2 := by
      intro d hd
      rw [hnew]
      exact List.mem_append_left new hd
    have hfirst := danglings_hoistParam (hps p List.mem_cons_self)
      (fun q hq => hbare q (List.mem_cons.mpr (.inl (List.mem_singleton.mp hq))))
      (fun d hd => hsub d (hkeep d hd)) (fun d hd => htypes d (hkeep d hd))
    have hrest := ih (fun q hq => hps q (List.mem_cons_of_mem p hq))
      (fun q hq => hbare q (List.mem_cons_of_mem p hq)) hsub htypes
    have hreport : (hoistParams functionName scope made (p :: rest)).danglings =
        (hoistParam functionName scope made p).danglings +
          (hoistParams functionName scope (hoistParam functionName scope made p).value.2
            rest).danglings := by
      rw [hoistParams, Reporting.danglings_bind, Reporting.danglings_bind]
      rfl
    rw [hreport, Scope.danglingsIn_cons, Scope.danglingsIn_cons scope p]
    omega

end FunctionTyping

end SchemaTypings
