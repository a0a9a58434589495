import SchemaTypings.Proofs.Assembly.Body
import SchemaTypings.Proofs.Assembly.Entries

/-!
# The types that parameters refer to

A parameter that became a reference refers to the declaration made for it if its name was free. If the
name was taken, the reference means whatever took it, and nothing is declared for the parameter.

* `typesNamed`: the types of one name in a body.
* `typesNamed_generateEntries`: behind the type entries nothing is declared under a name that is taken.
* `typesNamed_generate`: the types that a parameter refers to in the end.
-/

namespace SchemaTypings

/-- Whether a declaration is the type of this name. -/
def Declaration.isTypeNamed (name : String) (d : Declaration) : Bool :=
  d.inTypeSpace && d.name == name

/-- The types of a name in a body. -/
def typesNamed (name : String) (body : List Declaration) : List Declaration :=
  body.filter (·.isTypeNamed name)

theorem isTypeNamed_eq_false_of_form {d : Declaration} (h : d.inTypeSpace = false)
    (name : String) : d.isTypeNamed name = false := by
  rw [Declaration.isTypeNamed, h, Bool.false_and]

theorem isTypeNamed_eq_false_of_ne {d : Declaration} {name : String} (h : d.name ≠ name) :
    d.isTypeNamed name = false := by
  rw [Declaration.isTypeNamed, beq_false_of_ne h, Bool.and_false]

theorem typesNamed_append (name : String) (first second : List Declaration) :
    typesNamed name (first ++ second) = typesNamed name first ++ typesNamed name second :=
  List.filter_append first second

theorem typesNamed_eq_nil {name : String} {body : List Declaration}
    (h : ∀ d ∈ body, d.isTypeNamed name = false) : typesNamed name body = [] := by
  rw [typesNamed, List.filter_eq_nil_iff]
  intro d hd
  rw [h d hd]
  exact Bool.false_ne_true

/-! ## Taken names -/

namespace Scope

variable {scope : Scope} {name : String}

theorem isDefined_iff :
    scope.isDefined name = true ↔ ∃ d ∈ scope.defined, d.declaresType = true ∧ d.name = name := by
  simp only [isDefined, List.any_eq_true, Bool.and_eq_true, beq_iff_eq]

theorem typesNamed_of_not_isDefined (h : scope.isDefined name = false) :
    typesNamed name scope.defined = [] := by
  refine typesNamed_eq_nil fun d hd => Bool.eq_false_iff.mpr fun ht => ?_
  rw [Declaration.isTypeNamed, Bool.and_eq_true, beq_iff_eq] at ht
  have hdefined : scope.isDefined name = true :=
    isDefined_iff.mpr ⟨d, hd, Declaration.declaresType_iff.mpr (.inl ht.1), ht.2⟩
  rw [h] at hdefined
  cases hdefined

end Scope

namespace FunctionTyping

variable {scope : Scope}

theorem not_inTypeSpace_of_mem_signatures {f : Descriptor} {name : String} {decl : Declaration}
    (h : decl ∈ signatureDeclarations f name scope ++ exportOf name) :
    decl.inTypeSpace = false :=
  Declaration.not_inTypeSpace_of_form (.inr (form_of_mem_signatures h))

/-- A function makes types for its parameters only, under names that are free. -/
theorem free_of_mem_expand {d : Descriptor} {decl : Declaration}
    (h : decl ∈ (expand d scope).value) :
    decl.inTypeSpace = false ∨ scope.isDefined decl.name = false := by
  obtain ⟨f, name, -, -, hmade | hsignature⟩ := mem_expand_cases h
  · exact .inr ((prepare_made f name scope).free decl hmade)
  · exact .inl (not_inTypeSpace_of_mem_signatures hsignature)

end FunctionTyping

/-! ## Behind the types -/

namespace NamespaceSchema

variable {schema : NamespaceSchema} {catalog : Catalog} {name : String}

/-- An entry behind the types declares no type under a name that is taken. -/
theorem isTypeNamed_of_mem_declarations {body : List Declaration} {entry : Entry}
    (hentry : entry.isType = false)
    (hdefined : (schema.scope catalog body).isDefined name = true) :
    ∀ d ∈ (entry.declarations (schema.scope catalog body)).value, d.isTypeNamed name = false := by
  intro d hd
  have hconst : d.form = .const → d.isTypeNamed name = false := fun hf =>
    isTypeNamed_eq_false_of_form (Declaration.not_inTypeSpace_of_form (.inl hf)) name
  cases entry with
  | type => cases hentry
  | function f =>
    rcases FunctionTyping.free_of_mem_expand hd with h | h
    · exact isTypeNamed_eq_false_of_form h name
    · refine isTypeNamed_eq_false_of_ne fun he => ?_
      rw [he, hdefined] at h
      cases h
  | event e => exact hconst (EntryTyping.const_of_event (Entry.mem_declarations_event.mp hd))
  | property key p =>
    exact hconst (EntryTyping.const_of_property (Entry.mem_declarations_property.mp hd))

theorem isDefined_keep {body : List Declaration}
    (h : (schema.scope catalog body).isDefined name = true) (declarations : List Declaration) :
    (schema.scope catalog (Body.keep body declarations)).isDefined name = true := by
  obtain ⟨d, hd, hname⟩ := Scope.isDefined_iff.mp h
  exact Scope.isDefined_iff.mpr ⟨d, Body.mem_keep_of_mem hd declarations, hname⟩

/-- Entries behind the types leave the types of a taken name as they are. -/
theorem typesNamed_generateEntries {body : List Declaration} {entries : List Entry}
    (hentries : ∀ entry ∈ entries, entry.isType = false)
    (hdefined : (schema.scope catalog body).isDefined name = true) :
    typesNamed name (schema.generateEntries catalog body entries).value = typesNamed name body := by
  induction entries generalizing body with
  | nil => rfl
  | cons entry rest ih =>
    have hdeclared := isTypeNamed_of_mem_declarations (hentries entry List.mem_cons_self) hdefined
    rw [generateEntries, Reporting.value_bind, Reporting.value_bind, Body.value_push]
    rw [ih (fun e he => hentries e (List.mem_cons_of_mem entry he)) (isDefined_keep hdefined _)]
    exact Body.filter_keep hdeclared body

/-- Everything made for the parameters of a function is kept. -/
theorem keep_made {body : List Declaration} {ps : List Descriptor} {made : List Declaration}
    (h : FunctionTyping.Made (schema.scope catalog body) ps made) :
    Body.keep body made = body ++ made := by
  refine Body.keep_eq_append_of_free (fun d hd b hb => ?_) ?_
  · rw [Bool.eq_false_iff]
    intro hs
    obtain ⟨hname, hspace⟩ := Declaration.sharesName_iff.mp hs
    rw [h.inTypeSpace hd] at hspace
    have hdefined : (schema.scope catalog body).isDefined d.name = true :=
      Scope.isDefined_iff.mpr ⟨b, hb, Declaration.declaresType_iff.mpr (.inl hspace), hname⟩
    rw [h.free d hd] at hdefined
    cases hdefined
  · refine (List.pairwise_map.mp h.distinct).imp fun {a b} hne => ?_
    rw [Bool.eq_false_iff]
    exact fun hs => hne (Declaration.sharesName_iff.mp hs).1

end NamespaceSchema

open FunctionTyping

variable {schema : NamespaceSchema} {before behind : List Entry} {d f : Descriptor}
  {functionName : String}

/-- What a function sees. -/
def NamespaceSchema.scopeBehind (schema : NamespaceSchema) (catalog : Catalog)
    (before : List Entry) : Scope :=
  schema.scope catalog (schema.bodyBehind catalog before)

/-- Once the parameters of a function are done, the types of a name that is taken then stay. -/
theorem typesNamed_generate_of_taken (catalog : Catalog)
    (hentries : schema.entries = before ++ .function d :: behind)
    (hf : d.overridden? = some f) (hn : f.identifier? = some functionName) {name : String}
    (htaken : isTaken (schema.scopeBehind catalog before)
      (prepare f functionName (schema.scopeBehind catalog before)).value.2 name = true) :
    typesNamed name (schema.generate catalog).value =
      typesNamed name ((schema.scopeBehind catalog before).defined ++
        (prepare f functionName (schema.scopeBehind catalog before)).value.2) := by
  have hmade := prepare_made f functionName (schema.scopeBehind catalog before)
  have hdeclared : ((Entry.function d).declarations (schema.scopeBehind catalog before)).value =
      (expandNamed f functionName (schema.scopeBehind catalog before)).value := by
    rw [Entry.declarations, expand_eq_expandNamed _ hf hn]
  rw [NamespaceSchema.value_generate_split hentries]
  change typesNamed name (schema.generateEntries catalog (Body.keep _
    ((Entry.function d).declarations (schema.scopeBehind catalog before)).value) behind).value = _
  rw [hdeclared, value_expandNamed_eq hn, List.append_assoc, Body.keep_append,
    NamespaceSchema.keep_made hmade]
  rw [NamespaceSchema.typesNamed_generateEntries (NamespaceSchema.not_isType_behind hentries rfl)]
  · refine Body.filter_keep (fun e he => ?_) _
    exact isTypeNamed_eq_false_of_form (not_inTypeSpace_of_mem_signatures he) name
  · refine NamespaceSchema.isDefined_keep ?_ _
    rw [isTaken, Bool.or_eq_true, List.any_eq_true] at htaken
    rcases htaken with h | ⟨e, he, hname⟩
    · obtain ⟨e, he, hname⟩ := Scope.isDefined_iff.mp h
      exact Scope.isDefined_iff.mpr ⟨e, List.mem_append_left _ he, hname⟩
    · refine Scope.isDefined_iff.mpr ⟨e, List.mem_append_right _ he, ?_, beq_iff_eq.mp hname⟩
      exact Declaration.declaresType_iff.mpr (.inl (hmade.inTypeSpace he))

/-! ## Parameters -/

theorem typesNamed_append_of_free {scope : Scope} {made new : List Declaration} {name : String}
    (htaken : isTaken scope made name = true) (hnew : ∀ e ∈ new, isTaken scope made e.name = false)
    (body : List Declaration) : typesNamed name (body ++ new) = typesNamed name body := by
  have hnone : typesNamed name new = [] := by
    refine typesNamed_eq_nil fun e he => isTypeNamed_eq_false_of_ne fun hname => ?_
    rw [← hname, hnew e he] at htaken
    cases htaken
  rw [typesNamed_append, hnone, List.append_nil]

theorem typesNamed_of_not_isTaken {scope : Scope} {made : List Declaration} {name : String}
    (h : isTaken scope made name = false) : typesNamed name (scope.defined ++ made) = [] := by
  rw [isTaken, Bool.or_eq_false_iff, List.any_eq_false] at h
  rw [typesNamed_append, Scope.typesNamed_of_not_isDefined h.1, List.nil_append]
  refine typesNamed_eq_nil fun d hd => isTypeNamed_eq_false_of_ne fun hname => ?_
  exact h.2 d hd (beq_iff_eq.mpr hname)

theorem typesNamed_ownDeclaration (scope : Scope) (p : Descriptor) (name : String) :
    typesNamed name [ownDeclaration scope p name] = [ownDeclaration scope p name] := by
  refine List.filter_eq_self.mpr fun d hd => ?_
  rw [List.mem_singleton.mp hd, Declaration.isTypeNamed, inTypeSpace_ownDeclaration,
    name_ownDeclaration, beq_self_eq_true, Bool.and_self]

/-- The declaration of its own carries the type that a parameter has in place. -/
theorem ownDeclaration_carries {scope : Scope} {p : Descriptor} (hp : isHoistable p = true)
    (name : String) :
    p.overridden? = none ∨ ∃ type, (scope.inlineType p).value = some type ∧
      (ownDeclaration scope p name).Carries type := by
  cases ho : p.overridden? with
  | none => exact .inl rfl
  | some p' =>
    have hkind := kind?_of_isHoistable hp
    rw [Descriptor.overridden_of_object hkind ho] at ho
    exact .inr ⟨_, ObjectTyping.value_inlineType_object hkind ho,
      ObjectTyping.carries_namedBody p p name _ _⟩

/-- A rewritten parameter has been hoisted. -/
theorem prepare_getElem? {f p q : Descriptor} {scope : Scope} {i : Nat} (hp : f.params[i]? = some p)
    (hq : (prepare f functionName scope).value.1[i]? = some q) (hne : q ≠ p) :
    ∃ made new,
      Hoisted functionName scope (madeBefore functionName scope [] f.params i) p (q, made) ∧
      (prepare f functionName scope).value.2 = made ++ new ∧
      ∀ d ∈ new, isTaken scope made d.name = false := by
  unfold prepare at hq ⊢
  split at hq
  · exact absurd (Option.some.inj (hq.symm.trans hp)) hne
  next hinner =>
    obtain ⟨⟨r, made⟩, new, hhoisted, hr, hall, hnew⟩ :=
      hoistParams_getElem? functionName scope [] hp
    cases hq.symm.trans hr
    rw [if_neg hinner]
    exact ⟨made, new, hhoisted, hall, hnew⟩

/-- **The type that a parameter refers to in the end** is its own, which carries the type that the
parameter has in place, if the name was free when the parameter had its turn; otherwise it is what had
the name then. -/
theorem typesNamed_generate (catalog : Catalog)
    (hentries : schema.entries = before ++ .function d :: behind)
    (hf : d.overridden? = some f) (hn : f.identifier? = some functionName) {i : Nat}
    {p q : Descriptor} (hp : f.params[i]? = some p)
    (hq : (prepare f functionName (schema.scopeBehind catalog before)).value.1[i]? = some q)
    (hne : q ≠ p) :
    let scope := schema.scopeBehind catalog before
    let made := madeBefore functionName scope [] f.params i
    ∃ paramName, p.name = some paramName ∧
      q = p.asReferenceTo (hoistedName functionName paramName) ∧
      typesNamed (hoistedName functionName paramName) (schema.generate catalog).value =
        (if isTaken scope made (hoistedName functionName paramName) then
          typesNamed (hoistedName functionName paramName) (scope.defined ++ made)
        else [ownDeclaration scope p (hoistedName functionName paramName)]) ∧
      (p.overridden? = none ∨ ∃ type, (scope.inlineType p).value = some type ∧
        (ownDeclaration scope p (hoistedName functionName paramName)).Carries type) := by
  intro scope made
  obtain ⟨made', new, hhoisted, hall, hnew⟩ := prepare_getElem? hp hq hne
  have htypes : ∀ {name : String}, isTaken scope made' name = true →
      typesNamed name (schema.generate catalog).value =
        typesNamed name (scope.defined ++ made') := by
    intro name htaken
    have hlater : isTaken scope (prepare f functionName scope).value.2 name = true := by
      rw [hall, isTaken_append, htaken, Bool.true_or]
    rw [typesNamed_generate_of_taken catalog hentries hf hn hlater, hall, ← List.append_assoc]
    exact typesNamed_append_of_free htaken hnew _
  cases hhoisted with
  | kept => exact absurd rfl hne
  | reused hname hoistable taken =>
    refine ⟨_, hname, rfl, ?_, ownDeclaration_carries hoistable _⟩
    rw [if_pos taken]
    exact htypes taken
  | @own paramName own hname hoistable free hd =>
    refine ⟨_, hname, rfl, ?_, ownDeclaration_carries hoistable _⟩
    rw [eq_ownDeclaration hoistable hd] at htypes
    have htaken : isTaken scope (made ++ [ownDeclaration scope p
        (hoistedName functionName paramName)]) (hoistedName functionName paramName) = true := by
      rw [isTaken_append, List.any_cons, name_ownDeclaration, beq_self_eq_true, Bool.true_or,
        Bool.or_true]
    rw [if_neg (by rw [free]; exact Bool.false_ne_true), htypes htaken, ← List.append_assoc,
      typesNamed_append, typesNamed_of_not_isTaken free, typesNamed_ownDeclaration,
      List.nil_append]

/-- An object as a parameter behind an optional one. -/
def infoParameter : Descriptor :=
  { name := some "info", typeName := some "object",
    properties := some [("focused", { typeName := some "boolean" })] }

/-- A function with two variants, whose last parameter is an object. -/
def updateFunction : Descriptor :=
  { name := some "update", typeName := some "function",
    parameters := some [
      { name := some "id", typeName := some "integer", optional := some (.flag true) },
      infoParameter] }

/-- A namespace of one function, with the given types. -/
def windows (types : List Descriptor) : NamespaceSchema :=
  { name := "windows", sourceFile := "windows.json", types, functions := [updateFunction] }

theorem typesNamed_generate_windows :
    ∃ own type, typesNamed "UpdateInfo" ((windows []).generate .empty).value = [own] ∧
      (((windows []).scopeBehind .empty []).inlineType infoParameter).value = some type ∧
      own.Carries type := by
  have hname : hoistedName "update" "info" = "UpdateInfo" := by decide +kernel
  have hrewritten : (prepare updateFunction "update"
      ((windows []).scopeBehind .empty [])).value.1[1]? =
        some (infoParameter.asReferenceTo "UpdateInfo") := by with_unfolding_all rfl
  have hfree : isTaken ((windows []).scopeBehind .empty []) (madeBefore "update"
      ((windows []).scopeBehind .empty []) [] updateFunction.params 1) "UpdateInfo" = false := by
    decide +kernel
  have hkept : infoParameter.overridden? ≠ none := by
    have h : infoParameter.overridden? = some infoParameter := by with_unfolding_all rfl
    rw [h]
    nofun
  have hentries : (windows []).entries = [] ++ .function updateFunction :: [] := rfl
  have hoverridden : updateFunction.overridden? = some updateFunction := by with_unfolding_all rfl
  have hparams : updateFunction.params[1]? = some infoParameter := rfl
  obtain ⟨paramName, hparam, -, htypes, hcarries⟩ :=
    typesNamed_generate .empty hentries hoverridden rfl hparams hrewritten nofun
  cases hparam
  rw [hname, hfree] at htypes
  rw [hname] at hcarries
  obtain ⟨type, hinline, hown⟩ := hcarries.resolve_left hkept
  exact ⟨_, type, htypes, hinline, hown⟩

/-- A text that has the name the parameter would get. -/
def takenType : Descriptor := { id := some "UpdateInfo", typeName := some "string" }

theorem not_carries_windows :
    (prepare updateFunction "update"
        ((windows [takenType]).scopeBehind .empty [.type takenType])).value.1[1]? =
      some (infoParameter.asReferenceTo "UpdateInfo") ∧
    ∃ type, (((windows [takenType]).scopeBehind .empty [.type takenType]).inlineType
        infoParameter).value = some type ∧
      ∀ decl ∈ typesNamed "UpdateInfo" ((windows [takenType]).generate .empty).value,
        ¬decl.Carries type := by
  have htypes : typesNamed "UpdateInfo" ((windows [takenType]).generate .empty).value =
      [{ name := "UpdateInfo", body := .alias (.keyword .string) }] := by with_unfolding_all rfl
  refine ⟨by with_unfolding_all rfl, .object [.property "focused" (.keyword .boolean) false .none],
    by with_unfolding_all rfl, ?_⟩
  intro decl hdecl hcarries
  rw [htypes, List.mem_singleton] at hdecl
  rw [hdecl] at hcarries
  cases hcarries with
  | «alias» h => cases h
  | interface h => cases h

end SchemaTypings
