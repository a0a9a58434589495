import SchemaTypings.Proofs.Assembly.Diagnostics

/-!
# Entries that add nothing

The turns of the entries of a namespace are linked by the body alone: what an entry does is told by the
body that it finds, and what it reports is read by nobody. An entry that adds nothing to the body can
therefore be left out, and takes nothing but its own reports with it. Only type entries are different,
because references look for them whether or not they are declared.

* `NamespaceSchema.takeTurn`: an entry is generated and handed to the body.
* `NamespaceSchema.generateEntries_split`: a run is taken apart at one of its turns.
* `NamespaceSchema.generate_without`: a namespace without an entry that adds nothing.
-/

namespace SchemaTypings

/-- Where a function, an event or a property stands in its section. -/
inductive EntryPlace where
  | function (index : Nat)
  | event (index : Nat)
  | property (index : Nat)

namespace NamespaceSchema

variable {schema : NamespaceSchema} {place : EntryPlace} {entry : Entry}

/-! ## Places -/

/-- The entry at a place. -/
def entryAt? (schema : NamespaceSchema) : EntryPlace → Option Entry
  | .function i => schema.functions[i]?.map .function
  | .event i => schema.events[i]?.map .event
  | .property i => schema.properties[i]?.map fun (key, d) => .property key d

/-- The namespace with the entry at a place deleted. -/
def without (schema : NamespaceSchema) : EntryPlace → NamespaceSchema
  | .function i => { schema with functions := schema.functions.eraseIdx i }
  | .event i => { schema with events := schema.events.eraseIdx i }
  | .property i => { schema with properties := schema.properties.eraseIdx i }

/-- The entries before a place, in the order in which they are generated. -/
def entriesBefore (schema : NamespaceSchema) : EntryPlace → List Entry
  | .function i => schema.types.map .type ++ (schema.functions.take i).map .function
  | .event i => schema.types.map .type ++ schema.functions.map .function ++
      (schema.events.take i).map .event
  | .property i => schema.types.map .type ++ schema.functions.map .function ++
      schema.events.map .event ++ (schema.properties.take i).map fun (key, d) => .property key d

/-- The entries behind a place. -/
def entriesBehind (schema : NamespaceSchema) : EntryPlace → List Entry
  | .function i => (schema.functions.drop (i + 1)).map .function ++ schema.events.map .event ++
      schema.properties.map fun (key, d) => .property key d
  | .event i => (schema.events.drop (i + 1)).map .event ++
      schema.properties.map fun (key, d) => .property key d
  | .property i => (schema.properties.drop (i + 1)).map fun (key, d) => .property key d

/-- A list of images is taken apart at one of its elements. -/
theorem map_eq_split {α β : Type} (f : α → β) {l : List α} {i : Nat} {a : α}
    (h : l[i]? = some a) : l.map f = (l.take i).map f ++ f a :: (l.drop (i + 1)).map f := by
  obtain ⟨hi, rfl⟩ := List.getElem?_eq_some_iff.mp h
  rw [← List.map_cons, ← List.map_append, ← List.drop_eq_getElem_cons hi, List.take_append_drop]

theorem entries_eq_split (h : schema.entryAt? place = some entry) :
    schema.entries = schema.entriesBefore place ++ entry :: schema.entriesBehind place := by
  unfold entries
  cases place with
  | function i =>
    obtain ⟨d, hd, rfl⟩ := Option.map_eq_some_iff.mp h
    rw [map_eq_split Entry.function hd]
    simp only [entriesBefore, entriesBehind, List.append_assoc, List.cons_append]
  | event i =>
    obtain ⟨d, hd, rfl⟩ := Option.map_eq_some_iff.mp h
    rw [map_eq_split Entry.event hd]
    simp only [entriesBefore, entriesBehind, List.append_assoc, List.cons_append]
  | property i =>
    obtain ⟨p, hp, rfl⟩ := Option.map_eq_some_iff.mp h
    have hsplit := map_eq_split (fun ((key, d) : String × Descriptor) => Entry.property key d) hp
    rw [hsplit]
    simp only [entriesBefore, entriesBehind, List.append_assoc]

theorem entries_without :
    (schema.without place).entries = schema.entriesBefore place ++ schema.entriesBehind place := by
  cases place <;>
    simp only [entries, without, entriesBefore, entriesBehind, List.eraseIdx_eq_take_drop_succ,
      List.map_append, List.append_assoc]

/-- What the entries see does not depend on the functions, events and properties. -/
theorem generateEntries_without (catalog : Catalog) (body : List Declaration)
    (entries : List Entry) :
    (schema.without place).generateEntries catalog body entries =
      schema.generateEntries catalog body entries := by
  have hsee : (schema.without place).name = schema.name ∧
      ∀ body, (schema.without place).scope catalog body = schema.scope catalog body := by
    cases place <;> exact ⟨rfl, fun _ => rfl⟩
  obtain ⟨hname, hscope⟩ := hsee
  induction entries generalizing body with
  | nil => rfl
  | cons entry rest ih => simp only [generateEntries, hname, hscope, ih]

/-! ## Turns -/

/-- The turn of an entry behind a body: it is generated, and its declarations are handed to the body. -/
def takeTurn (schema : NamespaceSchema) (catalog : Catalog) (body : List Declaration)
    (entry : Entry) : Reporting (List Declaration) := do
  let declarations ← entry.declarations (schema.scope catalog body)
  Body.push schema.name body declarations

variable (catalog : Catalog) (body : List Declaration)

theorem generateEntries_cons (entry : Entry) (rest : List Entry) :
    schema.generateEntries catalog body (entry :: rest) =
      schema.takeTurn catalog body entry >>= fun body =>
        schema.generateEntries catalog body rest := by
  rw [generateEntries, takeTurn, bind_assoc]

theorem generateEntries_append (first second : List Entry) :
    schema.generateEntries catalog body (first ++ second) =
      schema.generateEntries catalog body first >>= fun body =>
        schema.generateEntries catalog body second := by
  induction first generalizing body with
  | nil => exact (pure_bind _ _).symm
  | cons entry rest ih => simp only [List.cons_append, generateEntries_cons, ih, bind_assoc]

/-- A run is taken apart at one of its turns. -/
theorem generateEntries_split (before behind : List Entry) (entry : Entry) :
    schema.generateEntries catalog body (before ++ entry :: behind) =
      schema.generateEntries catalog body before >>= fun body =>
        schema.takeTurn catalog body entry >>= fun body =>
          schema.generateEntries catalog body behind := by
  rw [generateEntries_append]
  simp only [generateEntries_cons]

theorem value_generate_entries :
    (schema.generate catalog).value =
      (schema.generateEntries catalog [] schema.entries).value := by
  rw [generate, Reporting.value_bind, Reporting.value_bind, Reporting.value_pure]

/-- **An entry that adds nothing costs only itself.** Where a function, an event or a property adds
nothing to the body, the namespace without it has the same body, and its diagnostics are those of the
namespace without the block that the entry and its declarations reported. -/
theorem generate_without (h : schema.entryAt? place = some entry) :
    let before := schema.generateEntries catalog [] (schema.entriesBefore place)
    let turn := schema.takeTurn catalog before.value entry
    let behind := schema.generateEntries catalog before.value (schema.entriesBehind place)
    turn.value = before.value →
      ((schema.without place).generate catalog).value = (schema.generate catalog).value ∧
        (schema.generate catalog).diagnostics =
          before.diagnostics ++ turn.diagnostics ++ behind.diagnostics ∧
        ((schema.without place).generate catalog).diagnostics =
          before.diagnostics ++ behind.diagnostics := by
  intro before turn behind hturn
  have hwith : schema.generateEntries catalog [] schema.entries =
      before >>= fun _ => turn >>= fun _ => behind := by
    rw [entries_eq_split h, generateEntries_split]
    refine Reporting.ext ?_ ?_
    · simp only [Reporting.value_bind]
      exact congrArg (fun body => (schema.generateEntries catalog body _).value) hturn
    · simp only [Reporting.events_bind]
      exact congrArg (fun body => before.events ++ (turn.events ++
        (schema.generateEntries catalog body _).events)) hturn
  have hwithout : (schema.without place).generateEntries catalog [] (schema.without place).entries =
      before >>= fun _ => behind := by
    rw [entries_without, generateEntries_without, generateEntries_append]
    rfl
  refine ⟨?_, ?_, ?_⟩
  · rw [value_generate_entries, value_generate_entries, hwith, hwithout]
    rfl
  · rw [diagnostics_generate, hwith, Reporting.diagnostics_bind, Reporting.diagnostics_bind,
      List.append_assoc]
  · rw [diagnostics_generate, hwithout, Reporting.diagnostics_bind]

/-- An event without a type for its listeners: they have extra parameters, and may leave out the first of
their own. -/
def clicked : Descriptor :=
  { name := some "onClicked", typeName := some "function",
    parameters := some [{ name := some "tab", typeName := some "any", optional := some (.flag true) },
      { name := some "info", reference := some "Info" }],
    extraParameters := some [{ name := some "filter", typeName := some "any" }] }

/-- A namespace in which it stands before an event that is not supported. -/
def menus : NamespaceSchema :=
  { name := "menus", sourceFile := "menus.json",
    events := [{ name := some "onShown", typeName := some "function" }, clicked,
      { name := some "onHidden", typeName := some "function", unsupported := some true }] }

theorem generate_without_clicked :
    ((menus.without (.event 1)).generate .empty).value = (menus.generate .empty).value ∧
      (menus.generate .empty).diagnostics.length = 2 ∧
      ((menus.without (.event 1)).generate .empty).diagnostics.length = 1 := by
  have hat : menus.entryAt? (.event 1) = some (.event clicked) := rfl
  have hturn : (menus.takeTurn .empty (menus.generateEntries .empty [] (menus.entriesBefore
      (.event 1))).value (.event clicked)).value =
        (menus.generateEntries .empty [] (menus.entriesBefore (.event 1))).value := by
    with_unfolding_all rfl
  obtain ⟨hbody, hwith, hwithout⟩ := generate_without .empty hat hturn
  refine ⟨hbody, ?_, ?_⟩
  · rw [hwith]
    with_unfolding_all rfl
  · rw [hwithout]
    with_unfolding_all rfl

end NamespaceSchema

end SchemaTypings
