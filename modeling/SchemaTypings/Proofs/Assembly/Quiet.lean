import SchemaTypings.Proofs.Assembly.Body
import SchemaTypings.Proofs.Assembly.Entries
import SchemaTypings.Proofs.Assembly.Traces

/-!
# Namespaces that report nothing

When a namespace reports nothing, no entry does, every declaration of every entry stands in the body,
and every type entry that is neither skipped nor a constant value is declared as a type.

* `quiet_split`: what holds around one entry.
* `mem_generate_cases`: every declaration in a body comes from an entry.
* `exists_type_of_quiet`: the types of a namespace are declared.
-/

namespace SchemaTypings

open Reporting (Quiet diagnostics_bind_eq_nil)

/-! ## Bodies -/

theorem Body.quiet_push {space : String} {body declarations : List Declaration}
    (h : (push space body declarations).diagnostics = []) :
    keep body declarations = body ++ declarations := by
  induction declarations generalizing body with
  | nil => exact (List.append_nil body).symm
  | cons d rest ih =>
    rw [push] at h
    rw [keep, isDropped]
    split at h
    · cases (diagnostics_bind_eq_nil.mp h).1
    next hfree => rw [if_neg hfree, ih h, List.append_assoc, List.singleton_append]

namespace NamespaceSchema

variable {schema : NamespaceSchema} {catalog : Catalog}

theorem mem_generateEntries_of_mem {body : List Declaration} {decl : Declaration} (h : decl ∈ body)
    (entries : List Entry) :
    decl ∈ (schema.generateEntries catalog body entries).value := by
  rw [value_generateEntries]
  exact Body.mem_keep_of_mem h _

theorem quiet_generateEntries {body : List Declaration} {before behind : List Entry} {entry : Entry}
    (h : (schema.generateEntries catalog body (before ++ entry :: behind)).diagnostics = []) :
    let defined := (schema.generateEntries catalog body before).value
    (entry.declarations (schema.scope catalog defined)).diagnostics = [] ∧
      Body.keep defined (entry.declarations (schema.scope catalog defined)).value =
        defined ++ (entry.declarations (schema.scope catalog defined)).value := by
  induction before generalizing body with
  | nil =>
    obtain ⟨hentry, h⟩ := diagnostics_bind_eq_nil.mp h
    exact ⟨hentry, Body.quiet_push (diagnostics_bind_eq_nil.mp h).1⟩
  | cons first rest ih =>
    obtain ⟨-, h⟩ := diagnostics_bind_eq_nil.mp h
    exact ih (diagnostics_bind_eq_nil.mp h).2

/-- An entry of a namespace that reports nothing reports nothing, and the body holds what was there
before and all that it declares. -/
theorem quiet_split (h : (schema.generate catalog).diagnostics = []) {before behind : List Entry}
    {entry : Entry} (hentries : schema.entries = before ++ entry :: behind) :
    let scope := schema.scope catalog (schema.bodyBehind catalog before)
    (entry.declarations scope).diagnostics = [] ∧
      ∀ decl ∈ scope.defined ++ (entry.declarations scope).value,
        decl ∈ (schema.generate catalog).value := by
  have hbody := (diagnostics_bind_eq_nil.mp h).1
  rw [hentries] at hbody
  obtain ⟨hentry, hkeep⟩ := quiet_generateEntries hbody
  refine ⟨hentry, fun decl hdecl => ?_⟩
  rw [value_generate_split hentries]
  refine mem_generateEntries_of_mem ?_ behind
  rw [bodyBehind, hkeep]
  exact hdecl

theorem mem_generateEntries_cases {body : List Declaration} {entries : List Entry}
    {decl : Declaration} (h : decl ∈ (schema.generateEntries catalog body entries).value) :
    decl ∈ body ∨ ∃ before entry behind, entries = before ++ entry :: behind ∧
      decl ∈ (entry.declarations (schema.scope catalog
        (schema.generateEntries catalog body before).value)).value := by
  induction entries generalizing body with
  | nil => exact .inl h
  | cons entry rest ih =>
    rw [generateEntries, Reporting.value_bind, Reporting.value_bind] at h
    rcases ih h with h | ⟨before, other, behind, rfl, hdecl⟩
    · rw [Body.value_push] at h
      rcases Body.mem_of_mem_keep h with h | h
      · exact .inl h
      · exact .inr ⟨[], entry, rest, rfl, h⟩
    · exact .inr ⟨entry :: before, other, behind, rfl, hdecl⟩

/-- Every declaration in a body comes from an entry. -/
theorem mem_generate_cases {decl : Declaration} (h : decl ∈ (schema.generate catalog).value) :
    ∃ before entry behind, schema.entries = before ++ entry :: behind ∧
      decl ∈ (entry.declarations (schema.scope catalog (schema.bodyBehind catalog before))).value := by
  rw [generate, Reporting.value_bind, Reporting.value_bind, Reporting.value_pure] at h
  exact (mem_generateEntries_cases h).resolve_left List.not_mem_nil

end NamespaceSchema

/-! ## Type entries -/

variable {scope : Scope} {d d' : Descriptor}

theorem isSome_inlineType_function (h : (scope.inlineType d).diagnostics = [])
    (ho : d.overridden? = some d') (hk : d.kind? = some .function) :
    (scope.inlineType d).value.isSome = true := by
  rw [← Descriptor.kind?_of_overridden ho] at hk
  obtain ⟨kind, g, hk', hvalue, hquiet⟩ := Scope.quiet_inlineType ho h
  cases hk.symm.trans hk'
  cases (Signature.value_typing _ (Descriptor.slot_inline d' "function") _ _).symm.trans hquiet.1
  rw [hvalue]
  rfl

/-- A type entry that is not skipped is declared, if it reports nothing. -/
theorem isSome_typeEntry (h : (EntryTyping.typeEntry d scope).diagnostics = [])
    (ho : d.overridden? = some d') : (EntryTyping.typeEntry d scope).value.isSome = true := by
  unfold EntryTyping.typeEntry at h ⊢
  split at h
  · cases h
  next hk =>
    obtain ⟨hquiet, hrest⟩ := diagnostics_bind_eq_nil.mp h
    obtain ⟨type, htype⟩ := Option.isSome_iff_exists.mp (isSome_inlineType_function hquiet ho hk)
    rw [htype] at hrest
    rw [Reporting.value_bind, htype]
    cases hid : d.id with
    | none =>
      rw [hid] at hrest
      cases hrest
    | some id => rfl
  next value hk =>
    rw [← Descriptor.kind?_of_overridden ho] at hk
    obtain ⟨kind, g, hk', hvalue, hquiet⟩ := Scope.quiet_declaration ho h
    cases hk.symm.trans hk'
    have hf : Kind.staticValue value ≠ .function := nofun
    obtain ⟨decl, rfl, -⟩ := Descriptor.isValueNamed_of_kindTyping rfl hf hquiet.1
    rw [hvalue]
    rfl
  next hreference hfunction hstatic =>
    obtain ⟨kind, g, hk, hvalue, hquiet⟩ := Scope.quiet_declaration ho h
    rw [Descriptor.kind?_of_overridden ho] at hk
    have hplaced : kind.isPlaced = false := by
      cases kind with
      | function => exact absurd hk hfunction
      | reference target => exact absurd hk (hreference target)
      | staticValue value => exact absurd hk (hstatic value)
      | _ => rfl
    have hc : Context.interface ≠ .inline := nofun
    obtain ⟨decl, rfl, -⟩ := Descriptor.isTypeNamed_of_kindTyping hplaced hc hquiet.1
    rw [hvalue]
    rfl

/-- **The types of a namespace that reports nothing are declared**, except for entries that are skipped
and constant values. -/
theorem NamespaceSchema.exists_type_of_quiet {schema : NamespaceSchema} {catalog : Catalog}
    (h : (schema.generate catalog).diagnostics = []) {id : String} (hd : d ∈ schema.types)
    (hid : d.id = some id) (ho : d.overridden? = some d')
    (hstatic : ∀ value, d.kind? ≠ some (.staticValue value)) :
    ∃ decl ∈ (schema.generate catalog).value, decl.inTypeSpace = true ∧ decl.name = id := by
  have hentry : Entry.type d ∈ schema.entries := by
    unfold entries
    simp only [List.mem_append]
    exact .inl (.inl (.inl (List.mem_map_of_mem hd)))
  obtain ⟨before, behind, hentries⟩ := List.append_of_mem hentry
  obtain ⟨hquiet, hkept⟩ := quiet_split h hentries
  obtain ⟨decl, hdecl⟩ :=
    Option.isSome_iff_exists.mp (isSome_typeEntry (diagnostics_bind_eq_nil.mp hquiet).1 ho)
  have hbody := hkept decl (List.mem_append_right _ (Entry.mem_declarations_type.mpr hdecl))
  refine ⟨decl, hbody, ?_⟩
  rcases EntryTyping.typeEntry_cases hdecl with ⟨ht, hname⟩ | ⟨-, -, value, hk⟩
  · exact ⟨ht, Option.some.inj (hname.symm.trans hid)⟩
  · exact absurd hk (hstatic value)

end SchemaTypings
