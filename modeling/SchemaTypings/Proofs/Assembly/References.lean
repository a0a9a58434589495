import SchemaTypings.Assembly.Module
import SchemaTypings.Proofs.Assembly.Quiet

/-!
# References in a module

When a module is assembled without any diagnostic, every name in it that comes from a reference is the
name of a declared type. There are two exceptions. A type entry that an override skips and one that is a
constant value are found by references, but no type is declared for them; and a reference without a
namespace may name a function beside it.

* `NamespaceSchema.Refers`, `NamespaceSchema.Hosts`: where the names in a namespace come from.
* `NamespaceSchema.Binds`: what a reference may name.
* `references_bound`: the names in a module are bound.
-/

namespace SchemaTypings

open Reporting (diagnostics_bind_eq_nil)

/-! ## Statements -/

namespace NamespaceSchema

/-- A descriptor with this property is generated for the namespace. -/
def Generates (schema : NamespaceSchema) (catalog : Catalog)
    (P : Scope → Descriptor → Prop) : Prop :=
  ∃ before entry behind, schema.entries = before ++ entry :: behind ∧
    ∃ place x, entry.Visits (schema.scope catalog (schema.bodyBehind catalog before)) place x ∧
      P place x

/-- A reference with this target is generated for the namespace. -/
def Refers (schema : NamespaceSchema) (catalog : Catalog) (target : String) : Prop :=
  schema.Generates catalog fun _ x => x.RefersTo target

/-- An instance of this class of the host is generated for the namespace. -/
def Hosts (schema : NamespaceSchema) (catalog : Catalog) (className : String) : Prop :=
  schema.Generates catalog fun _ x => x.IsHosted className

/-- A type entry for which no type is declared: it is skipped, or it is a constant value. -/
def IsWithheld (d : Descriptor) : Prop :=
  d.overridden? = none ∨ ∃ value, d.kind? = some (.staticValue value)

end NamespaceSchema

namespace Catalog

/-- A namespace of this name declares a type under the id. -/
def Declares (catalog : Catalog) (space id : String) : Prop :=
  ∃ schema ∈ catalog.namespaces, schema.name = space ∧
    ∃ decl ∈ (schema.generate catalog).value, decl.inTypeSpace = true ∧ decl.name = id

/-- A namespace of this name has type entries with the id, all of them withheld. -/
def Withholds (catalog : Catalog) (space id : String) : Prop :=
  ∃ schema ∈ catalog.namespaces, schema.name = space ∧ schema.hasType id = true ∧
    ∀ d ∈ schema.types, d.id = some id → NamespaceSchema.IsWithheld d

end Catalog

/-- What a reference may name: a type of the namespace before its last dot, and without a dot a type or
a function beside it. -/
def NamespaceSchema.Binds (schema : NamespaceSchema) (catalog : Catalog) (target : String) : Prop :=
  match splitAtLastDot? target with
  | some (space, id) => catalog.Declares space id ∨ catalog.Withholds space id
  | none => catalog.Declares schema.name target ∨ catalog.Withholds schema.name target ∨
      ∃ decl ∈ (schema.generate catalog).value, decl.form = .function ∧ decl.name = target

/-! ## Types that are found -/

namespace NamespaceSchema

variable {schema : NamespaceSchema} {catalog : Catalog}

theorem hasType_iff {id : String} :
    schema.hasType id = true ↔ ∃ d ∈ schema.types, d.id = some id := by
  simp only [hasType, findType?, List.find?_isSome, beq_iff_eq]

/-- An id of a type entry is declared or withheld. -/
theorem declares_or_withholds (hmem : schema ∈ catalog.namespaces)
    (h : (schema.generate catalog).diagnostics = []) {id : String}
    (hid : schema.hasType id = true) :
    catalog.Declares schema.name id ∨ catalog.Withholds schema.name id := by
  by_cases hall : ∀ d ∈ schema.types, d.id = some id → IsWithheld d
  · exact .inr ⟨schema, hmem, rfl, hid, hall⟩
  · simp only [Classical.not_forall] at hall
    obtain ⟨d, hd, hdid, hwithheld⟩ := hall
    cases ho : d.overridden? with
    | none => exact absurd (.inl ho) hwithheld
    | some d' =>
      have hstatic : ∀ value, d.kind? ≠ some (.staticValue value) := fun value hk =>
        hwithheld (.inr ⟨value, hk⟩)
      exact .inl ⟨schema, hmem, rfl, exists_type_of_quiet h hd hdid ho hstatic⟩

end NamespaceSchema

/-- A type that the catalog knows is declared or withheld. -/
theorem Catalog.declares_or_withholds {catalog : Catalog}
    (h : ∀ schema ∈ catalog.namespaces, (schema.generate catalog).diagnostics = [])
    {space id : String} (hid : catalog.hasType space id = true) :
    catalog.Declares space id ∨ catalog.Withholds space id := by
  rw [hasType, find?, Option.any_eq_true] at hid
  obtain ⟨schema, hfind, hid⟩ := hid
  have hmem := List.mem_of_find?_eq_some hfind
  have hname : schema.name = space := by simpa using List.find?_some hfind
  rw [← hname]
  exact NamespaceSchema.declares_or_withholds hmem (h schema hmem) hid

/-! ## Scopes -/

/-- A descriptor is generated in the scope of its entry, or behind further declarations of it. -/
theorem Entry.Visits.place_cases {scope place : Scope} {entry : Entry} {x : Descriptor}
    (h : entry.Visits scope place x) :
    place = scope ∨ ∃ made, place = scope.extend made ∧
      ∀ decl ∈ made, decl ∈ (entry.declarations scope).value := by
  cases h with
  | type => exact .inl rfl
  | parameter => exact .inl rfl
  | event => exact .inl rfl
  | property => exact .inl rfl
  | variant hf hn =>
    refine .inr ⟨_, rfl, fun decl hdecl => ?_⟩
    rw [declarations, FunctionTyping.expand_eq_expandNamed scope hf hn,
      FunctionTyping.value_expandNamed_eq hn, List.append_assoc]
    exact List.mem_append_left _ hdecl

namespace NamespaceSchema

variable {schema : NamespaceSchema} {catalog : Catalog} {options : Options}

/-- The declarations that a generated descriptor sees stand in the body in the end. -/
theorem mem_generate_of_place (h : (schema.generate catalog).diagnostics = [])
    {before behind : List Entry} {entry : Entry} {place : Scope} {x : Descriptor}
    (hentries : schema.entries = before ++ entry :: behind)
    (hv : entry.Visits (schema.scope catalog (schema.bodyBehind catalog before)) place x) :
    ∀ decl ∈ place.defined, decl ∈ (schema.generate catalog).value := by
  obtain ⟨-, hkept⟩ := quiet_split h hentries
  intro decl hdecl
  rcases hv.place_cases with rfl | ⟨made, rfl, hmade⟩
  · exact hkept decl (List.mem_append_left _ hdecl)
  · rcases List.mem_append.mp hdecl with hdecl | hdecl
    · exact hkept decl (List.mem_append_left _ hdecl)
    · exact hkept decl (List.mem_append_right _ (hmade decl hdecl))

theorem place_eq {before : List Entry} {entry : Entry} {place : Scope} {x : Descriptor}
    (hv : entry.Visits (schema.scope catalog (schema.bodyBehind catalog before)) place x) :
    place.space = schema.name ∧ place.knownTypes = schema.types ∧ place.catalog = catalog := by
  rcases hv.place_cases with rfl | ⟨made, rfl, -⟩ <;> exact ⟨rfl, rfl, rfl⟩

/-- **References that are generated without a diagnostic are bound.** -/
theorem binds_of_refers (hall : ∀ s ∈ catalog.namespaces, (s.generate catalog).diagnostics = [])
    (hmem : schema ∈ catalog.namespaces) {target : String} (hr : schema.Refers catalog target) :
    schema.Binds catalog target := by
  obtain ⟨before, entry, behind, hentries, place, x, hv, hx⟩ := hr
  have hquiet := hall schema hmem
  have hresolves := (Entry.traced (quiet_split hquiet hentries).1).resolved hv hx
  obtain ⟨hspace, htypes, hcatalog⟩ := place_eq hv
  unfold Scope.Resolves at hresolves
  unfold Binds
  cases hsplit : splitAtLastDot? target with
  | some parts =>
    rw [hsplit] at hresolves
    dsimp only at hresolves ⊢
    rw [hcatalog] at hresolves
    exact Catalog.declares_or_withholds hall hresolves
  | none =>
    rw [hsplit] at hresolves
    dsimp only at hresolves ⊢
    rw [Scope.isLocal, Bool.or_eq_true, Bool.or_eq_true, hspace, hcatalog] at hresolves
    rcases hresolves with (hknown | hbeside) | hdefined
    · rcases Catalog.declares_or_withholds hall hknown with h | h
      · exact .inl h
      · exact .inr (.inl h)
    · have hid : schema.hasType target = true := by
        rw [Scope.isKnown, htypes, List.any_eq_true] at hbeside
        obtain ⟨d, hd, hid⟩ := hbeside
        exact hasType_iff.mpr ⟨d, hd, beq_iff_eq.mp hid⟩
      rcases declares_or_withholds hmem hquiet hid with h | h
      · exact .inl h
      · exact .inr (.inl h)
    · rw [Scope.isDefined, List.any_eq_true] at hdefined
      obtain ⟨decl, hdecl, hname⟩ := hdefined
      rw [Bool.and_eq_true, beq_iff_eq] at hname
      have hbody := mem_generate_of_place hquiet hentries hv decl hdecl
      rcases Declaration.declaresType_iff.mp hname.1 with ht | hf
      · exact .inl ⟨schema, hmem, rfl, decl, hbody, ht, hname.2⟩
      · exact .inr (.inr ⟨decl, hbody, hf, hname.2⟩)

/-- Names in a body come from references and from classes of the host. -/
theorem refers_or_hosts (hquiet : (schema.generate catalog).diagnostics = []) {decl : Declaration}
    {name : String} (hdecl : decl ∈ (schema.generate catalog).value) (hm : decl.Mentions name) :
    schema.Refers catalog name ∨ schema.Hosts catalog name := by
  obtain ⟨before, entry, behind, hentries, hentry⟩ := mem_generate_cases hdecl
  obtain ⟨place, x, hv, hr | hh⟩ :=
    (Entry.traced (quiet_split hquiet hentries).1).named hentry hm
  · exact .inl ⟨before, entry, behind, hentries, place, x, hv, hr⟩
  · exact .inr ⟨before, entry, behind, hentries, place, x, hv, hh⟩

end NamespaceSchema

/-! ## Modules -/

namespace Assembly

variable {catalog : Catalog} {options : Options}

theorem not_isIgnored (hi : options.ignoredNamespaces = []) (name : String) :
    options.isIgnored name = false := by
  rw [Options.isIgnored, hi]
  rfl

/-- Without ignored namespaces a module holds the body of every namespace. -/
theorem value_assemble (hi : options.ignoredNamespaces = []) :
    (catalog.assemble options).value = ⟨statements options (catalog.namespaces.map fun schema =>
      namespaceDeclaration schema (schema.generate catalog).value)⟩ := by
  rw [Catalog.assemble, Reporting.value_bind, Reporting.value_bind, Reporting.value_pure,
    namespaces, Reporting.value_collect]
  simp only [not_isIgnored hi, Bool.false_eq_true, if_false, Reporting.value_bind,
    Reporting.value_pure, List.filterMap_eq_map']

theorem quiet_assemble (hi : options.ignoredNamespaces = [])
    (h : (catalog.assemble options).diagnostics = []) :
    ∀ schema ∈ catalog.namespaces, (schema.generate catalog).diagnostics = [] := by
  have hspaces := (diagnostics_bind_eq_nil.mp h).1
  intro schema hmem
  have hschema := Reporting.collect_quiet hspaces schema hmem
  rw [not_isIgnored hi, if_neg Bool.false_ne_true] at hschema
  exact (diagnostics_bind_eq_nil.mp hschema).1

end Assembly

/-- **Without diagnostics and ignored namespaces, the names in a module are bound**: those that come
from references name what references may name, and all others are classes of the host. -/
theorem references_bound (catalog : Catalog) (options : Options)
    (hi : options.ignoredNamespaces = []) (h : (catalog.assemble options).diagnostics = []) :
    (catalog.assemble options).value = ⟨Assembly.statements options
        (catalog.namespaces.map fun schema =>
          Assembly.namespaceDeclaration schema (schema.generate catalog).value)⟩ ∧
      ∀ schema ∈ catalog.namespaces,
        (∀ decl ∈ (schema.generate catalog).value, ∀ name, decl.Mentions name →
          schema.Refers catalog name ∨ schema.Hosts catalog name) ∧
        ∀ target, schema.Refers catalog target → schema.Binds catalog target := by
  have hall := Assembly.quiet_assemble hi h
  refine ⟨Assembly.value_assemble hi, fun schema hmem => ⟨?_, ?_⟩⟩
  · intro decl hdecl name hm
    exact NamespaceSchema.refers_or_hosts (hall schema hmem) hdecl hm
  · intro target hr
    exact NamespaceSchema.binds_of_refers hall hmem hr

/-- A reference as a parameter. -/
def tabParameter : Descriptor := { name := some "tab", reference := some "Tab" }

/-- A function that takes a reference. -/
def selectFunction : Descriptor :=
  { name := some "select", typeName := some "function", parameters := some [tabParameter] }

/-- A namespace of one function, with one type. -/
def tabs (type : Descriptor) : NamespaceSchema :=
  { name := "tabs", sourceFile := "tabs.json", types := [type], functions := [selectFunction] }

/-- A type that the parameter refers to. -/
def tabType : Descriptor :=
  { id := some "Tab", typeName := some "object",
    properties := some [("index", { typeName := some "integer" })] }

theorem tabs_refers (type : Descriptor) : (tabs type).Refers ⟨[tabs type]⟩ "Tab" := by
  have hentries : (tabs type).entries = [.type type] ++ .function selectFunction :: [] := rfl
  have hselect : selectFunction.overridden? = some selectFunction := by with_unfolding_all rfl
  have hparameter : tabParameter.overridden? = some tabParameter := by with_unfolding_all rfl
  exact ⟨_, _, _, hentries, _, tabParameter,
    .variant hselect rfl (List.mem_singleton_self [tabParameter])
      (.param (List.mem_singleton_self tabParameter)) (.self hparameter), rfl⟩

theorem references_bound_tabs :
    (Catalog.assemble ⟨[tabs tabType]⟩ {}).diagnostics = [] ∧
      (tabs tabType).Refers ⟨[tabs tabType]⟩ "Tab" ∧
      (tabs tabType).Binds ⟨[tabs tabType]⟩ "Tab" := by
  have hquiet : (Catalog.assemble ⟨[tabs tabType]⟩ {}).diagnostics = [] := by decide +kernel
  have hbound := references_bound ⟨[tabs tabType]⟩ {} rfl hquiet
  have hrefers := tabs_refers tabType
  exact ⟨hquiet, hrefers, (hbound.2 _ (List.mem_singleton_self _)).2 "Tab" hrefers⟩

/-- The same type, not implemented by the host. -/
def unsupportedTab : Descriptor := { tabType with unsupported := some true }

theorem not_declares_unsupported :
    (Catalog.assemble ⟨[tabs unsupportedTab]⟩ {}).diagnostics = [] ∧
      (tabs unsupportedTab).Refers ⟨[tabs unsupportedTab]⟩ "Tab" ∧
      (∃ decl ∈ ((tabs unsupportedTab).generate ⟨[tabs unsupportedTab]⟩).value,
        decl.Mentions "Tab") ∧
      ¬Catalog.Declares ⟨[tabs unsupportedTab]⟩ "tabs" "Tab" := by
  have hbody : ((tabs unsupportedTab).generate ⟨[tabs unsupportedTab]⟩).value =
      [{ name := "select",
         body := .function [{ name := "tab", type := .reference "Tab" }] (.keyword .void) }] := by
    with_unfolding_all rfl
  refine ⟨by decide +kernel, tabs_refers unsupportedTab, ?_, ?_⟩
  · rw [hbody]
    exact ⟨_, List.mem_singleton_self _, .reference "Tab", List.mem_cons_self, .reference⟩
  · rintro ⟨schema, hmem, -, decl, hdecl, ht, -⟩
    rw [List.mem_singleton.mp hmem, hbody] at hdecl
    rw [List.mem_singleton.mp hdecl] at ht
    cases ht

end SchemaTypings
