import SchemaTypings.Assembly.Module
import SchemaTypings.Proofs.Assembly.Diagnostics

/-!
# Namespaces in a module

A module holds one block for each namespace that is not ignored. Each namespace is generated for itself:
neither what was reported before nor what the others come to changes it, and all that it reports is in
its name. Ignoring more namespaces takes away their blocks and their diagnostics and changes nothing
else, because references still find their types.

* `Assembly.assemble_isolated`: a module is put together from its namespaces, each on its own.
-/

namespace SchemaTypings

/-- The declarations inside a namespace declaration. -/
def Declaration.nested (d : Declaration) : List Declaration :=
  match d.body with
  | .namespace body => body
  | _ => []

/-- What the root namespace of a module holds. -/
def Module.rootBody (m : Module) : List Declaration :=
  (m.statements[2]?.map Declaration.nested).getD []

namespace Assembly

/-- The namespaces that options do not leave out, in the order of the catalog. -/
def included (options : Options) (catalog : Catalog) : List NamespaceSchema :=
  catalog.namespaces.filter fun schema => !options.isIgnored schema.name

/-- The declaration of a namespace with its body. -/
def block (catalog : Catalog) (schema : NamespaceSchema) : Declaration :=
  namespaceDeclaration schema (schema.generate catalog).value

variable (catalog : Catalog) (options : Options)

/-! ## Blocks and diagnostics -/

theorem value_namespaces (schemas : List NamespaceSchema) :
    (namespaces options catalog schemas).value =
      (schemas.filter fun schema => !options.isIgnored schema.name).map (block catalog) := by
  rw [namespaces, Reporting.value_collect]
  induction schemas with
  | nil => rfl
  | cons schema rest ih =>
    cases hignored : options.isIgnored schema.name with
    | true =>
      rw [List.filterMap_cons_none (by rw [if_pos hignored]; rfl), ih,
        List.filter_cons_of_neg (by simp [hignored])]
    | false =>
      rw [List.filterMap_cons_some (b := block catalog schema)
          (by rw [if_neg (by simp [hignored])]; rfl), ih,
        List.filter_cons_of_pos (by simp [hignored]), List.map_cons]

theorem diagnostics_namespaces (schemas : List NamespaceSchema) :
    (namespaces options catalog schemas).diagnostics =
      (schemas.filter fun schema => !options.isIgnored schema.name).flatMap
        fun schema => (schema.generate catalog).diagnostics := by
  rw [namespaces, Reporting.diagnostics_collect]
  induction schemas with
  | nil => rfl
  | cons schema rest ih =>
    rw [List.flatMap_cons, ih]
    cases hignored : options.isIgnored schema.name with
    | true =>
      rw [List.filter_cons_of_neg (by simp [hignored])]
      rfl
    | false =>
      rw [List.filter_cons_of_pos (by simp [hignored]), List.flatMap_cons,
        if_neg Bool.false_ne_true, Reporting.diagnostics_bind, Reporting.diagnostics_pure,
        List.append_nil]

theorem value_assemble_included :
    (catalog.assemble options).value =
      ⟨statements options ((included options catalog).map (block catalog))⟩ := by
  rw [Catalog.assemble, Reporting.value_bind, Reporting.value_bind, Reporting.value_pure,
    value_namespaces]
  rfl

theorem diagnostics_assemble :
    (catalog.assemble options).diagnostics =
      (included options catalog).flatMap fun schema => (schema.generate catalog).diagnostics := by
  rw [Catalog.assemble, Reporting.diagnostics_bind, Reporting.diagnostics_bind,
    Reporting.diagnostics_note, Reporting.diagnostics_pure, List.append_nil, List.append_nil,
    diagnostics_namespaces]
  rfl

theorem rootBody_assemble :
    (catalog.assemble options).value.rootBody = (included options catalog).map (block catalog) := by
  rw [value_assemble_included]
  rfl

/-! ## Ignoring more -/

/-- Whether a name is among the first names but not among the second. -/
def isAdded (more less : List String) (name : String) : Bool :=
  more.contains name && !less.contains name

variable {more less : List String}

/-- Ignoring more leaves out the namespaces that were not ignored before. -/
theorem included_of_subset (h : less ⊆ more) :
    included { options with ignoredNamespaces := more } catalog =
      (included { options with ignoredNamespaces := less } catalog).filter
        fun schema => !isAdded more less schema.name := by
  unfold included
  rw [List.filter_filter]
  apply List.filter_congr
  intro schema _
  have hsub : less.contains schema.name = true → more.contains schema.name = true := by
    intro hless
    exact List.contains_iff_mem.mpr (h (List.contains_iff_mem.mp hless))
  simp only [Options.isIgnored, isAdded]
  cases hless : less.contains schema.name with
  | true => rw [hsub hless]; rfl
  | false => cases more.contains schema.name <;> rfl

/-- What namespaces report can be told apart by the names. -/
theorem filter_diagnostics (keep : String → Bool) (schemas : List NamespaceSchema) :
    (schemas.flatMap fun schema => (schema.generate catalog).diagnostics).filter
        (fun x => x.space.all keep) =
      (schemas.filter fun schema => keep schema.name).flatMap
        fun schema => (schema.generate catalog).diagnostics := by
  induction schemas with
  | nil => rfl
  | cons schema rest ih =>
    have htagged : ∀ x ∈ (schema.generate catalog).diagnostics,
        x.space.all keep = keep schema.name := by
      intro x hx
      rw [NamespaceSchema.generate_tagged x hx]
      rfl
    rw [List.flatMap_cons, List.filter_append, ih]
    cases hkeep : keep schema.name with
    | true =>
      rw [List.filter_cons_of_pos (by exact hkeep), List.flatMap_cons,
        List.filter_eq_self.mpr fun x hx => (htagged x hx).trans hkeep]
    | false =>
      have hnone : (schema.generate catalog).diagnostics.filter (fun x => x.space.all keep) = [] := by
        rw [List.filter_eq_nil_iff]
        intro x hx
        rw [htagged x hx, hkeep]
        exact Bool.false_ne_true
      rw [List.filter_cons_of_neg (by simp [hkeep]), hnone, List.nil_append]

/-- **A module is put together from its namespaces, each generated for itself**, whatever was reported
before; what a namespace reports is in its name, and ignoring more namespaces takes away exactly their
blocks and their diagnostics. -/
theorem assemble_isolated {α : Type} (earlier : Reporting α) :
    let run := earlier >>= fun _ => catalog.assemble options
    let schemas := catalog.namespaces.filter fun schema => !options.isIgnored schema.name
    run.value.statements[2]? = some (ambient options.rootNamespace (schemas.map fun schema =>
        namespaceDeclaration schema (schema.generate catalog).value)) ∧
      run.diagnostics = earlier.diagnostics ++
        schemas.flatMap (fun schema => (schema.generate catalog).diagnostics) ∧
      (∀ schema : NamespaceSchema, ∀ x ∈ (schema.generate catalog).diagnostics,
        x.space = some schema.name) ∧
      ∀ less more : List String, less ⊆ more →
        let assembled names := catalog.assemble { options with ignoredNamespaces := names }
        (assembled more).value.rootBody =
            (assembled less).value.rootBody.filter (fun d => !isAdded more less d.name) ∧
          (assembled more).diagnostics =
            (assembled less).diagnostics.filter fun x => x.space.all (!isAdded more less ·) := by
  refine ⟨?_, ?_, fun schema => NamespaceSchema.generate_tagged, fun less more h => ⟨?_, ?_⟩⟩
  · rw [Reporting.value_bind, value_assemble_included]
    rfl
  · rw [Reporting.diagnostics_bind, diagnostics_assemble]
    rfl
  · rw [rootBody_assemble, rootBody_assemble, included_of_subset catalog options h, List.filter_map]
    rfl
  · rw [diagnostics_assemble, diagnostics_assemble, included_of_subset catalog options h,
      filter_diagnostics]

/-- Two namespaces, the first of which refers to a type of the second. -/
def tabsAndWindows : Catalog :=
  ⟨[{ name := "tabs", properties := [("opener", { reference := some "windows.Window" })],
      sourceFile := "tabs.json" },
    { name := "windows", types := [{ id := some "Window", typeName := some "string" }],
      sourceFile := "windows.json" }]⟩

/-- The second namespace can be left out, and the reference into it is still no problem. -/
theorem assemble_isolated_windows :
    (tabsAndWindows.assemble { ignoredNamespaces := ["windows"] }).value.rootBody =
        (tabsAndWindows.assemble {}).value.rootBody.filter
          (fun d => !isAdded ["windows"] [] d.name) ∧
      (tabsAndWindows.assemble {}).diagnostics = [] ∧
      (tabsAndWindows.assemble { ignoredNamespaces := ["windows"] }).diagnostics = [] := by
  have hquiet : (tabsAndWindows.assemble {}).diagnostics = [] := by decide +kernel
  obtain ⟨-, -, -, hignoring⟩ := assemble_isolated tabsAndWindows {} (pure ())
  obtain ⟨hbody, hdiagnostics⟩ := hignoring [] ["windows"] (List.nil_subset _)
  refine ⟨hbody, hquiet, hdiagnostics.trans ?_⟩
  rw [hquiet]
  rfl

end Assembly

end SchemaTypings
