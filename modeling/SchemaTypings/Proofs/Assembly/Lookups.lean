import SchemaTypings.Proofs.Catalog.Grouping
import SchemaTypings.Proofs.Typing.Lookups
import SchemaTypings.Assembly.Namespace

/-!
# What a namespace asks of the others

All that the other namespaces give to a namespace are the ids of their types. Catalogs that declare the same
types therefore make the same of it, and fragments of other namespaces that bring no types can be merged
at any time.

* `Entry.declarations_withCatalog`: an entry is the same over catalogs with the same types.
* `Catalog.sameTypes_merge`: a fragment without types leaves all lookups as they were.
* `NamespaceSchema.generate_sameTypes`: a namespace depends on the type ids of the catalog alone.
-/

namespace SchemaTypings

/-! ## Entries -/

section Entries

variable {scope : Scope} {other : Catalog} (h : scope.catalog.SameTypes other)

include h

theorem EntryTyping.typeEntry_withCatalog (d : Descriptor) :
    typeEntry d (scope.withCatalog other) = typeEntry d scope := by
  unfold typeEntry
  simp only [Scope.inlineType_withCatalog h, Scope.declaration_withCatalog h]
  rfl

theorem EntryTyping.eventEntry_withCatalog (d : Descriptor) :
    eventEntry d (scope.withCatalog other) = eventEntry d scope := by
  unfold eventEntry
  rw [EventTyping.expand_withCatalog h]
  rfl

theorem EntryTyping.propertyEntry_withCatalog (key : String) (d : Descriptor) :
    propertyEntry key d (scope.withCatalog other) = propertyEntry key d scope := by
  unfold propertyEntry
  simp only [Scope.inlineType_withCatalog h, Scope.declaration_withCatalog h]
  rfl

/-- An entry is the same over either catalog. -/
theorem Entry.declarations_withCatalog (entry : Entry) :
    entry.declarations (scope.withCatalog other) = entry.declarations scope := by
  cases entry with
  | type d => simp only [declarations, EntryTyping.typeEntry_withCatalog h]
  | function d => exact FunctionTyping.expand_withCatalog h d
  | event d => simp only [declarations, EntryTyping.eventEntry_withCatalog h]
  | property key d => simp only [declarations, EntryTyping.propertyEntry_withCatalog h]

end Entries

/-! ## Merging without types -/

namespace Catalog

variable {fragment : Fragment} {name : String} (file : String)

/-- A fragment changes no other namespace. -/
theorem find?_absorb_of_ne {other : String} (h : other ≠ name) (schemas : List NamespaceSchema) :
    (absorb name fragment file schemas).value.find? (·.name == other) =
      schemas.find? (·.name == other) := by
  have hname : ∀ schema : NamespaceSchema, schema.name = name → (schema.name == other) = false :=
    fun schema hs => beq_eq_false_iff_ne.mpr fun heq => h (heq.symm.trans hs)
  induction schemas with
  | nil => exact List.find?_cons_of_neg (by simpa using Ne.symm h)
  | cons schema rest ih =>
    by_cases hs : schema.name = name
    · rw [absorb, if_pos hs]
      show List.find? _ ((schema.absorb fragment file).value :: rest) = _
      rw [List.find?_cons, NamespaceSchema.absorb_name, List.find?_cons, hname schema hs]
    · rw [absorb_cons_of_ne fragment file hs, Reporting.value_map, List.find?_cons, ih,
        List.find?_cons]

/-- The types of the namespace with this name, none if there is no such namespace. -/
def typesOf (catalog : Catalog) (name : String) : List Descriptor :=
  ((catalog.find? name).map (·.types)).getD []

theorem hasType_eq_any (catalog : Catalog) (name id : String) :
    catalog.hasType name id = ((catalog.typesOf name).find? fun d => d.id == some id).isSome := by
  unfold hasType typesOf
  cases catalog.find? name <;> rfl

/-- A fragment without types adds no types to any namespace. -/
theorem typesOf_absorb (h : fragment.types = []) (schemas : List NamespaceSchema) (space : String) :
    typesOf ⟨(absorb name fragment file schemas).value⟩ space = typesOf ⟨schemas⟩ space := by
  have htypes : ∀ schema : NamespaceSchema, (schema.absorb fragment file).value.types = schema.types :=
    fun schema => (congrArg (schema.types ++ ·) h).trans (List.append_nil schema.types)
  unfold typesOf find?
  induction schemas with
  | nil =>
    show Option.getD (Option.map _ (List.find? _ [_])) [] = []
    rw [List.find?_singleton]
    split
    · exact htypes _
    · rfl
  | cons schema rest ih =>
    by_cases hs : schema.name = name
    · rw [absorb, if_pos hs]
      show Option.getD (Option.map _ (List.find? _ ((schema.absorb fragment file).value :: rest))) [] = _
      rw [List.find?_cons, NamespaceSchema.absorb_name, List.find?_cons]
      split
      · exact htypes schema
      · rfl
    · rw [absorb_cons_of_ne fragment file hs, Reporting.value_map, List.find?_cons, List.find?_cons]
      split
      · rfl
      · exact ih

/-- A fragment without types leaves all lookups as they were. -/
theorem sameTypes_merge (catalog : Catalog) (h : fragment.types = []) :
    catalog.SameTypes (catalog.merge fragment file).value.1 := by
  intro space id
  cases hspace : fragment.space with
  | none => rw [(merge_nameless hspace catalog file).1]
  | some name =>
    rw [(merge_named hspace catalog file).1, hasType_eq_any, hasType_eq_any, typesOf_absorb file h]

theorem find?_merge_of_ne (catalog : Catalog) (h : fragment.space ≠ some name) :
    (catalog.merge fragment file).value.1.find? name = catalog.find? name := by
  cases hspace : fragment.space with
  | none => rw [(merge_nameless hspace catalog file).1]
  | some space =>
    have hne : name ≠ space := fun heq => h (hspace.trans (congrArg some heq.symm))
    rw [(merge_named hspace catalog file).1]
    exact find?_absorb_of_ne file hne catalog.namespaces

end Catalog

/-! ## Namespaces -/

namespace NamespaceSchema

theorem generateEntries_sameTypes (schema : NamespaceSchema) {first second : Catalog}
    (h : first.SameTypes second) (body : List Declaration) (entries : List Entry) :
    schema.generateEntries second body entries = schema.generateEntries first body entries := by
  induction entries generalizing body with
  | nil => rfl
  | cons entry rest ih =>
    have hscope : (schema.scope first body).catalog.SameTypes second := h
    have hentry : entry.declarations (schema.scope second body) =
        entry.declarations (schema.scope first body) := Entry.declarations_withCatalog hscope entry
    simp only [generateEntries, hentry, ih]

/-- **The other namespaces matter only through the ids of their types.** Over catalogs that declare the
same types a namespace comes to the same body with the same reports. A fragment of another namespace, or
of none, that declares no types therefore changes neither the namespace nor what is generated for it. -/
theorem generate_sameTypes (schema : NamespaceSchema) (first second : Catalog) :
    (first.SameTypes second → schema.generate first = schema.generate second) ∧
      ∀ (fragment : Fragment) (file : String), fragment.space ≠ some schema.name →
        fragment.types = [] →
          let merged := (first.merge fragment file).value.1
          merged.find? schema.name = first.find? schema.name ∧
            schema.generate merged = schema.generate first := by
  have hsame : ∀ {other : Catalog}, first.SameTypes other →
      schema.generate other = schema.generate first := by
    intro other h
    rw [generate, generate, generateEntries_sameTypes schema h]
  refine ⟨fun h => (hsame h).symm, fun fragment file hspace htypes => ⟨?_, ?_⟩⟩
  · exact Catalog.find?_merge_of_ne file first hspace
  · exact hsame (Catalog.sameTypes_merge file first htypes)

/-- A namespace that refers to a type of another one, and to one that nobody declares. -/
def history : NamespaceSchema :=
  { name := "history", sourceFile := "history.json",
    properties := [("last", { reference := some "tabs.Tab" }), ("old", { reference := some "tabs.Old" })] }

/-- A namespace with a type. -/
def tabs : NamespaceSchema :=
  { name := "tabs", types := [{ id := some "Tab", typeName := some "string" }],
    sourceFile := "tabs.json" }

/-- The type may become another one with the same id, and functions may come to it. -/
theorem generate_sameTypes_history :
    let changed := { tabs with types := [{ id := some "Tab", typeName := some "object" }] }
    let functions : Fragment := { space := some "tabs", functions := [{ name := some "query" }] }
    history.generate ⟨[tabs]⟩ = history.generate ⟨[changed]⟩ ∧
      history.generate (Catalog.merge ⟨[tabs]⟩ functions "more.json").value.1 =
        history.generate ⟨[tabs]⟩ := by
  intro changed functions
  have hsame : Catalog.SameTypes ⟨[tabs]⟩ ⟨[changed]⟩ := by
    intro space id
    by_cases hspace : "tabs" = space
    · subst hspace
      by_cases hid : "Tab" = id
      · subst hid
        rfl
      · simp [Catalog.hasType, Catalog.find?, hasType, findType?, tabs, changed, hid]
    · simp [Catalog.hasType, Catalog.find?, tabs, changed, hspace]
  obtain ⟨hchanged, hmerge⟩ := generate_sameTypes history ⟨[tabs]⟩ ⟨[changed]⟩
  exact ⟨hchanged hsame, (hmerge functions "more.json" (by decide) rfl).2⟩

end NamespaceSchema

end SchemaTypings
