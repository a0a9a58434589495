import SchemaTypings.Assembly.Namespace
import SchemaTypings.Proofs.Functions.OverloadSet
import SchemaTypings.Proofs.Typing.Named

/-!
# What entries declare

Type entries declare types, or constants for constant values; functions declare functions with the
types of their parameters, and exports for reserved names; events and properties declare constants.

* `Declaration.OfEntry`: all that an entry can declare.
* `EntryTyping.typeEntry_cases`: what a type entry declares, and under which name.
* `Entry.ofEntry_of_mem`: entries declare nothing else.
-/

namespace SchemaTypings

/-- The declarations of entries. No function has the name of an export, which is reserved. -/
inductive Declaration.OfEntry (d : Declaration) : Prop
  | type (h : d.inTypeSpace = true)
  | const (h : d.form = .const)
  | function (h : d.form = .function) (hn : Text.isReserved d.name = false)
  | exportAlias (h : d.form = .exportAlias) (hn : Text.isReserved d.name = true)

namespace EntryTyping

variable {d : Descriptor} {scope : Scope} {decl : Declaration}

/-! ## Types -/

/-- A type entry declares a type, or a constant where it is a constant value. -/
theorem typeEntry_cases (h : (typeEntry d scope).value = some decl) :
    (decl.inTypeSpace = true ∧ d.id = some decl.name) ∨
      (decl.form = .const ∧ d.identifier? = some decl.name ∧
        ∃ value, d.kind? = some (.staticValue value)) := by
  unfold typeEntry at h
  split at h
  · cases h
  · rw [Reporting.value_bind] at h
    split at h
    · cases h
    · split at h
      next hid =>
        cases h
        exact .inl ⟨rfl, hid⟩
      · cases h
  next value hk =>
    obtain ⟨hid, hc⟩ := Scope.const_of_declaration h hk rfl (by rintro ⟨⟩)
    exact .inr ⟨hc, hid, value, hk⟩
  next hreference hfunction hstatic =>
    have hplaced : ∀ kind, d.kind? = some kind → kind.isPlaced = false := by
      intro kind hk
      cases kind with
      | function => exact absurd hk hfunction
      | reference target => exact absurd hk (hreference target)
      | staticValue value => exact absurd hk (hstatic value)
      | _ => rfl
    obtain ⟨hid, ht⟩ := Scope.inTypeSpace_of_declaration h (by rintro ⟨⟩) hplaced
    exact .inl ⟨ht, hid⟩

/-! ## Events and properties -/

theorem const_of_event (h : (eventEntry d scope).value = some decl) : decl.form = .const := by
  unfold eventEntry at h
  split at h
  · cases h
  · unfold EventTyping.expand at h
    split at h
    · cases h
    next event _ =>
      rw [Reporting.value_bind] at h
      split at h
      next made hmade =>
        cases h
        unfold EventTyping.typing at hmade
        split at hmade
        · cases hmade
        · obtain ⟨callback, -, hmade⟩ := Reporting.run_bind_eq_ok.mp hmade
          split at hmade
          · obtain ⟨extra, -, hmade⟩ := Reporting.run_bind_eq_ok.mp hmade
            cases hmade
            rfl
          · cases hmade
            rfl
      · cases h

theorem const_of_property {key : String} (h : (propertyEntry key d scope).value = some decl) :
    decl.form = .const := by
  unfold propertyEntry at h
  dsimp only at h
  split at h
  · cases h
  · split at h
    next hk => exact (Scope.const_of_declaration h hk rfl nofun).2
    · split at h
      · rw [Reporting.value_bind, Reporting.value_pure, Option.map_eq_some_iff] at h
        obtain ⟨type, -, rfl⟩ := h
        rfl
      · cases h
    · cases h

end EntryTyping

/-! ## Functions -/

namespace FunctionTyping

/-- A local name is free for functions. -/
theorem isReserved_localName (name : String) : Text.isReserved (localName name) = false := by
  have hwords : ∀ word ∈ Text.reservedWords, word.toList.head? ≠ some '_' := by decide
  have hhead : (localName name).toList.head? = some '_' := by
    rw [localName, String.toList_append]
    rfl
  rw [Text.isReserved, Bool.eq_false_iff]
  intro h
  exact hwords _ (List.contains_iff_mem.mp h) hhead

theorem ofEntry_signatureDeclaration (f : Descriptor) (name : String) (scope : Scope)
    (ps : List Descriptor) : (signatureDeclaration f name scope ps).OfEntry := by
  refine .function ?_ ?_
  · exact beq_iff_eq.mp (isFunction_signatureDeclaration f name scope ps)
  · rw [(name_signatureDeclaration f name scope ps).1]
    split
    · exact isReserved_localName name
    next h => exact Bool.eq_false_iff.mpr h

theorem ofEntry_of_mem_expand {d : Descriptor} {scope : Scope} :
    ∀ decl ∈ (expand d scope).value, decl.OfEntry := by
  intro decl h
  obtain ⟨f, name, -, -, hmade | hsignature⟩ := mem_expand_cases h
  · exact .type ((prepare_made f name scope).inTypeSpace hmade)
  · rcases List.mem_append.mp hsignature with hsignature | hexport
    · obtain ⟨ps, -, rfl⟩ := List.mem_map.mp hsignature
      exact ofEntry_signatureDeclaration f name _ ps
    · obtain ⟨hr, rfl⟩ := mem_exportOf.mp hexport
      exact .exportAlias rfl hr

end FunctionTyping

/-! ## All entries -/

namespace Entry

variable {scope : Scope} {d : Descriptor} {decl : Declaration}

theorem mem_declarations_type :
    decl ∈ ((type d).declarations scope).value ↔
      (EntryTyping.typeEntry d scope).value = some decl := by
  rw [declarations, Reporting.value_bind, Reporting.value_pure, Option.mem_toList]

theorem mem_declarations_event :
    decl ∈ ((event d).declarations scope).value ↔
      (EntryTyping.eventEntry d scope).value = some decl := by
  rw [declarations, Reporting.value_bind, Reporting.value_pure, Option.mem_toList]

theorem mem_declarations_property {key : String} :
    decl ∈ ((property key d).declarations scope).value ↔
      (EntryTyping.propertyEntry key d scope).value = some decl := by
  rw [declarations, Reporting.value_bind, Reporting.value_pure, Option.mem_toList]

end Entry

/-- **Entries declare types, constants, functions and exports only.** -/
theorem Entry.ofEntry_of_mem (entry : Entry) (scope : Scope) :
    ∀ decl ∈ (entry.declarations scope).value, decl.OfEntry := by
  intro decl h
  cases entry with
  | type d =>
    rcases EntryTyping.typeEntry_cases (mem_declarations_type.mp h) with ⟨ht, -⟩ | ⟨hc, -⟩
    · exact .type ht
    · exact .const hc
  | function d => exact FunctionTyping.ofEntry_of_mem_expand decl h
  | event d => exact .const (EntryTyping.const_of_event (mem_declarations_event.mp h))
  | property key d =>
    exact .const (EntryTyping.const_of_property (mem_declarations_property.mp h))

/-! ## Order -/

/-- Whether an entry is a type entry. -/
def Entry.isType : Entry → Bool
  | type _ => true
  | _ => false

/-- Type entries come first. -/
theorem NamespaceSchema.pairwise_entries (schema : NamespaceSchema) :
    schema.entries.Pairwise fun a b => b.isType = true → a.isType = true := by
  have htypes : ∀ entry ∈ schema.types.map Entry.type, entry.isType = true := by
    intro entry h
    obtain ⟨d, -, rfl⟩ := List.mem_map.mp h
    rfl
  rw [entries, List.append_assoc, List.append_assoc, List.pairwise_append]
  refine ⟨?_, ?_, fun a ha _ _ _ => htypes a ha⟩
  · exact List.pairwise_of_forall_mem_list fun a ha _ _ _ => htypes a ha
  · refine List.pairwise_of_forall_mem_list fun _ _ b hb h => ?_
    rw [List.mem_append, List.mem_append] at hb
    rcases hb with hb | hb | hb <;> obtain ⟨x, -, rfl⟩ := List.mem_map.mp hb <;> cases h

theorem NamespaceSchema.not_isType_behind {schema : NamespaceSchema} {before behind : List Entry}
    {entry : Entry} (h : schema.entries = before ++ entry :: behind)
    (hentry : entry.isType = false) : ∀ e ∈ behind, e.isType = false := by
  intro e he
  have hpair := schema.pairwise_entries
  rw [h] at hpair
  have hlater := (List.pairwise_cons.mp (List.pairwise_append.mp hpair).2.1).1 e he
  rw [Bool.eq_false_iff]
  intro ht
  rw [hlater ht] at hentry
  cases hentry

end SchemaTypings
