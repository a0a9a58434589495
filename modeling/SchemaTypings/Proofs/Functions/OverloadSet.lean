import SchemaTypings.Proofs.Declaration.Forms
import SchemaTypings.Proofs.Functions.Hoisting

/-!
# The overload set of a function

A function becomes one declaration for each variant of its parameters, all under one name and with
one return type, and what stands at a position of the parameters has one type in all of them.

* `signatureDeclaration`: the declaration over one variant.
* `OverloadSet`: all that a function comes to.
* `expand_overloadSet`: a function that is not skipped and has a name comes to its overload set.
-/

namespace SchemaTypings

/-- Whether a problem is one of the function itself, and not of a type in it. -/
def Problem.isOfFunction : Problem → Bool
  | unnamedFunction _ | failedFunction _ _ | tooManyVariants _ _ => true
  | _ => false

theorem Problem.OfTyping.not_isOfFunction {severity : Severity} {problem : Problem}
    (h : OfTyping severity problem) : problem.isOfFunction = false := by
  cases h <;> rfl

namespace FunctionTyping

open Signature (visible)

/-- The declaration of a function over one variant of its parameters. -/
def signatureDeclaration (f : Descriptor) (name : String) (scope : Scope)
    (ps : List Descriptor) : Declaration :=
  let shown := visible .consume ps
  let d : Declaration :=
    { name, doc := Signature.doc f shown,
      body := .function (Signature.params scope.inlineType shown).value
        (Signature.returnType scope.inlineType f ps .consume).value }
  if Text.isReserved name then hide name d else d

/-- What expanding a function under a name comes to. -/
structure OverloadSet (f : Descriptor) (name : String) (scope : Scope)
    (run : Reporting (List Declaration)) : Prop where
  /-- Making types of parameters changes no position, name or optional marker. -/
  positions : Variants.innerPositions (prepare f name scope).value.1 =
    Variants.innerPositions f.params
  names : (prepare f name scope).value.1.map (·.name) = f.params.map (·.name)
  markers : (prepare f name scope).value.1.map (·.optional) = f.params.map (·.optional)
  /-- There is one function for each variant, in order, built from it. -/
  functions : run.value.filter (·.isFunction) =
    (Variants.all (prepare f name scope).value.1).map
      (signatureDeclaration f name (scope.extend (prepare f name scope).value.2))
  /-- There are `2 ^ k` of them for `k` inner optional parameters, one above the limit. -/
  number : (run.value.filter (·.isFunction)).length =
    if (Variants.innerPositions f.params).length ≤ Variants.limit then
      Nat.pow 2 (Variants.innerPositions f.params).length
    else 1
  /-- They share their name, which is local and hidden if the name of the function is reserved. -/
  naming : ∀ g ∈ run.value.filter (·.isFunction),
    g.name = (if Text.isReserved name then localName name else name) ∧
      g.exported = !Text.isReserved name
  /-- They share their return type. -/
  returns : ∃ type, ∀ g ∈ run.value.filter (·.isFunction), g.returns? = some type
  /-- A position has one type in all of them that keep it. -/
  types : ∃ typeAt : Nat → TypeExpr, ∀ (i : Nat) (g : Declaration),
    (run.value.filter (·.isFunction))[i]? = some g →
      g.params.map (·.type) =
        ((Variants.kept f.params i).filter
          fun j => !Variants.isCallbackAt f.params j).map typeAt
  /-- Types made for parameters come before, and the export of a reserved name comes after. -/
  order : ∃ made : List Declaration, (∀ d ∈ made, d.inTypeSpace = true) ∧
    run.value = made ++ run.value.filter (·.isFunction) ++
      if Text.isReserved name then [{ name, body := .exportAlias (localName name) }] else []
  /-- There is no other export alias. -/
  exports : run.value.filter (·.isExportAlias) =
    if Text.isReserved name then [{ name, body := .exportAlias (localName name) }] else []
  /-- The function itself is reported only where it has too many variants. -/
  reported : run.diagnostics.filter (·.problem.isOfFunction) =
    if Variants.limit < (Variants.innerPositions f.params).length then
      [⟨.warning, some scope.space,
        .tooManyVariants name (Variants.innerPositions f.params).length⟩]
    else []

variable {f : Descriptor} {name : String} {scope : Scope}

/-! ## One variant -/

theorem isFunction_signatureDeclaration (f : Descriptor) (name : String) (scope : Scope)
    (ps : List Descriptor) : (signatureDeclaration f name scope ps).isFunction = true := by
  unfold signatureDeclaration
  dsimp only
  split <;> rfl

theorem params_signatureDeclaration (f : Descriptor) (name : String) (scope : Scope)
    (ps : List Descriptor) :
    (signatureDeclaration f name scope ps).params =
      (Signature.params scope.inlineType (visible .consume ps)).value := by
  unfold signatureDeclaration
  dsimp only
  split <;> rfl

theorem returns?_signatureDeclaration (f : Descriptor) (name : String) (scope : Scope)
    (ps : List Descriptor) :
    (signatureDeclaration f name scope ps).returns? =
      some (Signature.returnType scope.inlineType f ps .consume).value := by
  unfold signatureDeclaration
  dsimp only
  split <;> rfl

theorem name_signatureDeclaration (f : Descriptor) (name : String) (scope : Scope)
    (ps : List Descriptor) :
    (signatureDeclaration f name scope ps).name =
        (if Text.isReserved name then localName name else name) ∧
      (signatureDeclaration f name scope ps).exported = !Text.isReserved name := by
  unfold signatureDeclaration
  dsimp only
  split
  next h => exact ⟨rfl, by rw [h]; rfl⟩
  next h => exact ⟨rfl, by rw [Bool.eq_false_iff.mpr h]; rfl⟩

/-- A variant of a named function is always declared. -/
theorem value_overload (hn : f.identifier? = some name) (ps : List Descriptor) :
    (overload f name scope ps).value = some (signatureDeclaration f name scope ps) := by
  unfold overload
  rw [Reporting.value_bind, Signature.value_typing _ (Descriptor.slot_namespace hn _)]
  dsimp only [Signature.place, Generated.declaration?, Reporting.value_pure]
  unfold signatureDeclaration
  dsimp only
  split <;> rfl

theorem not_isExportAlias_signatureDeclaration (f : Descriptor) (name : String) (scope : Scope)
    (ps : List Descriptor) : (signatureDeclaration f name scope ps).isExportAlias = false := by
  unfold signatureDeclaration
  dsimp only
  split <;> rfl

theorem overload_reports {P : Diagnostic → Prop} (own : scope.Admits P)
    (hn : f.identifier? = some name) (ps : List Descriptor) :
    (overload f name scope ps).Reports P := by
  refine (Scope.signature_reports .namespace fun e _ => Scope.inlineType_reports own e).bind ?_
  rw [Signature.value_typing _ (Descriptor.slot_namespace hn _)]
  exact Reporting.reports_pure _

/-! ## The parameters for the variants -/

theorem prepare_outline (f : Descriptor) (name : String) (scope : Scope) :
    (prepare f name scope).value.1.map Variants.outline = f.params.map Variants.outline := by
  unfold prepare
  split
  · rfl
  · exact hoistParams_outline [] f.params

theorem forall_mem_prepare {P : Descriptor → Prop} {f : Descriptor} {name : String} {scope : Scope}
    (hkept : ∀ p ∈ f.params, P p) (hreference : ∀ p ∈ f.params, ∀ name, P (p.asReferenceTo name)) :
    ∀ p ∈ (prepare f name scope).value.1, P p := by
  unfold prepare
  split
  · exact hkept
  · exact forall_mem_hoistParams hkept hreference

theorem prepare_made (f : Descriptor) (name : String) (scope : Scope) :
    Made scope f.params (prepare f name scope).value.2 := by
  unfold prepare
  split
  · exact made_nil scope f.params
  · exact hoistParams_made (made_nil scope f.params) fun _ h => h

theorem prepare_reports {P : Diagnostic → Prop} (own : scope.Admits P) (f : Descriptor)
    (name : String) : (prepare f name scope).Reports P := by
  unfold prepare
  split
  · exact Reporting.reports_pure _
  · exact hoistParams_reports own [] f.params

/-! ## All variants -/

/-- The declarations of all variants, in order. -/
def signatureDeclarations (f : Descriptor) (name : String) (scope : Scope) : List Declaration :=
  (Variants.all (prepare f name scope).value.1).map
    (signatureDeclaration f name (scope.extend (prepare f name scope).value.2))

/-- The export of a reserved name. -/
def exportOf (name : String) : List Declaration :=
  if Text.isReserved name then [{ name, body := .exportAlias (localName name) }] else []

theorem mem_exportOf {decl : Declaration} :
    decl ∈ exportOf name ↔
      Text.isReserved name = true ∧ decl = { name, body := .exportAlias (localName name) } := by
  unfold exportOf
  split
  next h => simp only [List.mem_singleton, h, true_and]
  next h => simp only [List.not_mem_nil, h, Bool.false_eq_true, false_and]

theorem form_of_mem_signatures {decl : Declaration}
    (h : decl ∈ signatureDeclarations f name scope ++ exportOf name) :
    decl.form = .function ∨ decl.form = .exportAlias := by
  rcases List.mem_append.mp h with h | h
  · obtain ⟨ps, -, rfl⟩ := List.mem_map.mp h
    exact .inl (beq_iff_eq.mp (isFunction_signatureDeclaration f name _ ps))
  · obtain ⟨-, rfl⟩ := mem_exportOf.mp h
    exact .inr rfl

theorem length_signatureDeclarations (f : Descriptor) (name : String) (scope : Scope) :
    (signatureDeclarations f name scope).length = Variants.count f.params := by
  rw [signatureDeclarations, List.length_map, Variants.length_all, Variants.count, Variants.count,
    Variants.innerPositions_congr (prepare_outline f name scope)]

theorem count_pos (params : List Descriptor) : 0 < Variants.count params := by
  unfold Variants.count
  split
  · exact Nat.two_pow_pos _
  · exact Nat.one_pos

theorem value_expandNamed_eq (hn : f.identifier? = some name) :
    (expandNamed f name scope).value =
      (prepare f name scope).value.2 ++ signatureDeclarations f name scope ++ exportOf name := by
  have hoverloads : ((Variants.all (prepare f name scope).value.1).filterMap fun ps =>
      (overload f name (scope.extend (prepare f name scope).value.2) ps).value) =
        signatureDeclarations f name scope := by
    simp only [value_overload hn]
    rw [List.filterMap_eq_map']
    rfl
  have hne : (signatureDeclarations f name scope).isEmpty = false := by
    rw [List.isEmpty_eq_false_iff, ← List.length_pos_iff, length_signatureDeclarations]
    exact count_pos f.params
  rw [value_expandNamed]
  dsimp only
  rw [hoverloads, reservedExport, hne, Bool.not_false, Bool.and_true, exportOf]

theorem expand_eq_expandNamed (scope : Scope) {d : Descriptor} (hf : d.overridden? = some f)
    (hn : f.identifier? = some name) : expand d scope = expandNamed f name scope := by
  unfold expand
  rw [hf]
  dsimp only
  rw [hn]

/-- A function that declares anything is not skipped and has a name, and what it declares is made
for a parameter or for a variant, or is the export of its name. -/
theorem mem_expand_cases {d : Descriptor} {decl : Declaration}
    (h : decl ∈ (expand d scope).value) :
    ∃ f name, d.overridden? = some f ∧ f.identifier? = some name ∧
      (decl ∈ (prepare f name scope).value.2 ∨
        decl ∈ signatureDeclarations f name scope ++ exportOf name) := by
  cases hf : d.overridden? with
  | none =>
    rw [expand, hf] at h
    exact absurd h List.not_mem_nil
  | some f =>
    cases hn : f.identifier? with
    | none =>
      rw [expand, hf] at h
      dsimp only at h
      rw [hn] at h
      exact absurd h List.not_mem_nil
    | some name =>
      rw [expand_eq_expandNamed scope hf hn, value_expandNamed_eq hn, List.append_assoc,
        List.mem_append] at h
      exact ⟨f, name, rfl, hn, h⟩

theorem filter_isFunction_value (scope : Scope) (hn : f.identifier? = some name) :
    (expandNamed f name scope).value.filter (·.isFunction) =
      signatureDeclarations f name scope := by
  have hmade : (prepare f name scope).value.2.filter (·.isFunction) = [] := by
    rw [List.filter_eq_nil_iff]
    intro d hd
    rw [Declaration.not_isFunction_of_inTypeSpace ((prepare_made f name scope).inTypeSpace hd)]
    exact Bool.false_ne_true
  have hown : (signatureDeclarations f name scope).filter (·.isFunction) =
      signatureDeclarations f name scope := by
    rw [List.filter_eq_self]
    intro d hd
    obtain ⟨ps, -, rfl⟩ := List.mem_map.mp hd
    exact isFunction_signatureDeclaration f name _ ps
  have hexport : (exportOf name).filter (·.isFunction) = [] := by
    unfold exportOf
    split <;> rfl
  rw [value_expandNamed_eq hn, List.filter_append, List.filter_append, hmade, hown, hexport,
    List.nil_append, List.append_nil]

theorem filter_isExportAlias_value (hn : f.identifier? = some name) :
    (expandNamed f name scope).value.filter (·.isExportAlias) = exportOf name := by
  have hmade : (prepare f name scope).value.2.filter (·.isExportAlias) = [] := by
    rw [List.filter_eq_nil_iff]
    intro d hd
    rw [Declaration.not_isExportAlias_of_inTypeSpace ((prepare_made f name scope).inTypeSpace hd)]
    exact Bool.false_ne_true
  have hown : (signatureDeclarations f name scope).filter (·.isExportAlias) = [] := by
    rw [List.filter_eq_nil_iff]
    intro d hd
    obtain ⟨ps, -, rfl⟩ := List.mem_map.mp hd
    rw [not_isExportAlias_signatureDeclaration]
    exact Bool.false_ne_true
  have hexport : (exportOf name).filter (·.isExportAlias) = exportOf name := by
    unfold exportOf
    split <;> rfl
  rw [value_expandNamed_eq hn, List.filter_append, List.filter_append, hmade, hown, hexport,
    List.nil_append, List.nil_append]

/-- The return type depends on the callback alone, which all variants share. -/
theorem returnType_variant (inline : InlineTyping) (f : Descriptor) (ps : List Descriptor)
    (number : Nat) :
    Signature.returnType inline f (Variants.variant ps number) .consume =
      Signature.returnType inline f ps .consume := by
  have h : Signature.consumed? .consume (Variants.variant ps number) =
      Signature.consumed? .consume ps := by
    unfold Signature.consumed? Signature.resultParameter?
    rw [Variants.find?_isCallback_variant]
  rw [Signature.returnType, Signature.returnType, h]

/-- What the parts of a function report is not about the function. -/
theorem admits_not_isOfFunction (scope : Scope) :
    scope.Admits fun x => x.problem.isOfFunction = false :=
  fun _ _ h => h.not_isOfFunction

theorem reported_expandNamed (hn : f.identifier? = some name) :
    (expandNamed f name scope).diagnostics.filter (·.problem.isOfFunction) =
      if Variants.limit < (Variants.innerPositions f.params).length then
        [⟨.warning, some scope.space,
          .tooManyVariants name (Variants.innerPositions f.params).length⟩]
      else [] := by
  have hparts : ∀ {l : List Diagnostic}, (∀ x ∈ l, x.problem.isOfFunction = false) →
      l.filter (·.problem.isOfFunction) = [] := by
    intro l h
    rw [List.filter_eq_nil_iff]
    intro x hx
    rw [h x hx]
    exact Bool.false_ne_true
  have hprepare := hparts (prepare_reports (admits_not_isOfFunction scope) f name)
  have hvariants : ((Variants.all (prepare f name scope).value.1).flatMap fun ps =>
      (overload f name (scope.extend (prepare f name scope).value.2) ps).diagnostics).filter
        (·.problem.isOfFunction) = [] := by
    refine hparts fun x hx => ?_
    obtain ⟨ps, -, hx⟩ := List.mem_flatMap.mp hx
    exact overload_reports (admits_not_isOfFunction _) hn ps x hx
  rw [diagnostics_expandNamed]
  dsimp only
  rw [List.filter_append, List.filter_append, hprepare, hvariants, List.append_nil,
    List.append_nil]
  split <;> rfl

/-- The type of the parameter at a position. -/
def typeAt (inline : InlineTyping) (ps : List Descriptor) (j : Nat) : TypeExpr :=
  (inline ((Variants.full ps)[j]?.getD {})).value.getD .any

theorem types_variant (inline : InlineTyping) {ps qs : List Descriptor}
    (h : ps.map Variants.outline = qs.map Variants.outline) (number : Nat) :
    (Signature.params inline (visible .consume (Variants.variant ps number))).value.map (·.type) =
      ((Variants.kept qs number).filter fun j => !Variants.isCallbackAt qs j).map
        (typeAt inline ps) := by
  have hvariant := Variants.variant_eq_map_kept (fun j => (Variants.full ps)[j]?.getD {}) ps number
    fun j p hp => by rw [hp, Option.getD_some]
  have hcallback : ∀ j, ((Variants.full ps)[j]?.getD {}).isCallback =
      Variants.isCallbackAt qs j := by
    intro j
    rw [← Variants.isCallbackAt_congr h, ← Variants.isCallbackAt_full, Variants.isCallbackAt]
    cases (Variants.full ps)[j]? with
    | none => rfl
    | some p => rfl
  rw [Signature.types_params, visible, hvariant, List.filter_map, List.map_map,
    Variants.kept_congr h]
  simp only [Function.comp_def, hcallback]
  rfl

/-- The functions are numbered like the variants that they are over. -/
theorem eq_signatureDeclaration {i : Nat} {g : Declaration}
    (hg : (signatureDeclarations f name scope)[i]? = some g) :
    g = signatureDeclaration f name (scope.extend (prepare f name scope).value.2)
      (Variants.variant (prepare f name scope).value.1 i) := by
  rw [signatureDeclarations, Variants.all_eq_map, List.map_map, List.getElem?_map,
    Option.map_eq_some_iff] at hg
  obtain ⟨number, hi, rfl⟩ := hg
  obtain ⟨hi, rfl⟩ := List.getElem?_eq_some_iff.mp hi
  rw [List.getElem_range]
  rfl

/-- **A function that is not skipped and has a name comes to its overload set.** -/
theorem expand_overloadSet (scope : Scope) {d : Descriptor} (hf : d.overridden? = some f)
    (hn : f.identifier? = some name) : OverloadSet f name scope (expand d scope) := by
  rw [expand_eq_expandNamed scope hf hn]
  have houtline := prepare_outline f name scope
  have hfunctions := filter_isFunction_value scope hn
  constructor
  case positions => exact Variants.innerPositions_congr houtline
  case names => simpa [Function.comp_def, Variants.outline] using congrArg (·.map Prod.fst) houtline
  case markers =>
    simpa [Function.comp_def, Variants.outline] using congrArg (·.map Prod.snd) houtline
  case functions => exact hfunctions
  case number =>
    rw [hfunctions, length_signatureDeclarations]
    rfl
  case naming =>
    intro g hg
    rw [hfunctions] at hg
    obtain ⟨ps, -, rfl⟩ := List.mem_map.mp hg
    exact name_signatureDeclaration f name _ ps
  case returns =>
    refine ⟨(Signature.returnType (scope.extend (prepare f name scope).value.2).inlineType f
      (prepare f name scope).value.1 .consume).value, fun g hg => ?_⟩
    rw [hfunctions] at hg
    obtain ⟨i, hi⟩ := List.mem_iff_getElem?.mp hg
    rw [eq_signatureDeclaration hi, returns?_signatureDeclaration, returnType_variant]
  case types =>
    refine ⟨typeAt (scope.extend (prepare f name scope).value.2).inlineType
      (prepare f name scope).value.1, fun i g hi => ?_⟩
    rw [hfunctions] at hi
    rw [eq_signatureDeclaration hi, params_signatureDeclaration, types_variant _ houtline]
  case order =>
    refine ⟨(prepare f name scope).value.2, fun d hd => (prepare_made f name scope).inTypeSpace hd,
      ?_⟩
    rw [hfunctions, value_expandNamed_eq hn]
    rfl
  case exports => exact filter_isExportAlias_value hn
  case reported => exact reported_expandNamed hn

/-- A function with a reserved name, whose second parameter is an object. -/
def deleteFunction : Descriptor :=
  { typeName := some "function", name := some "delete",
    parameters := some [
      { name := some "force", typeName := some "boolean", optional := some (.flag true) },
      { name := some "target", typeName := some "object",
        properties := some [("id", { typeName := some "string" })] }] }

/-- A scope without types and declarations. -/
def emptyScope : Scope := { space := "tabs", knownTypes := [], catalog := .empty, defined := [] }

theorem expand_overloadSet_delete :
    OverloadSet deleteFunction "delete" emptyScope (expand deleteFunction emptyScope) ∧
      ((expand deleteFunction emptyScope).value.filter (·.isFunction)).length = 2 := by
  have h : OverloadSet deleteFunction "delete" emptyScope (expand deleteFunction emptyScope) :=
    expand_overloadSet emptyScope (by with_unfolding_all rfl) rfl
  exact ⟨h, h.number⟩

end FunctionTyping

end SchemaTypings
