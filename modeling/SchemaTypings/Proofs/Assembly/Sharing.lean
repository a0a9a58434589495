import SchemaTypings.Proofs.Assembly.Body
import SchemaTypings.Proofs.Assembly.Entries

/-!
# Declarations under one name

Interfaces may be declared again and functions overloaded; any other name should be declared once. A
body leaves out every later declaration that may not repeat, but it does not look at what an interface
or a function repeats.

* `NamespaceSchema.generate_sharing`: declarations of one name repeat one form, except for an
  interface behind an alias and a function behind a constant; these occur exactly when such a name is
  first handed over with an alias or a constant.
-/

namespace SchemaTypings

namespace Declaration

/-- Interfaces that merge, or overloads of a function. -/
def Repeats (a b : Declaration) : Prop :=
  (a.form = .interface ∧ b.form = .interface) ∨ (a.form = .function ∧ b.form = .function)

instance (a b : Declaration) : Decidable (Repeats a b) := inferInstanceAs (Decidable (_ ∨ _))

/-- An interface behind an alias, or a function behind a constant. -/
def Clashes (a b : Declaration) : Prop :=
  (a.form = .alias ∧ b.form = .interface) ∨ (a.form = .const ∧ b.form = .function)

theorem Repeats.mayRepeat {a b : Declaration} (h : Repeats a b) : a.mayRepeat = true := by
  rw [mayRepeat_iff]
  rcases h with ⟨ha, -⟩ | ⟨ha, -⟩
  · exact .inl ha
  · exact .inr (.inl ha)

theorem OfEntry.form_of_mayRepeat {d : Declaration} (h : d.OfEntry) (hd : d.mayRepeat = true) :
    d.form = .interface ∨ (d.form = .function ∧ Text.isReserved d.name = false) := by
  rw [mayRepeat_iff] at hd
  cases h with
  | type ht =>
    rcases inTypeSpace_iff.mp ht with hf | hf
    · exact .inl hf
    · simp [hf] at hd
  | const hf => simp [hf] at hd
  | function hf hn => exact .inr ⟨hf, hn⟩
  | exportAlias hf => simp [hf] at hd

/-- What an entry can declare under the name of an interface or a function. -/
theorem OfEntry.repeats_or_clashes {a b : Declaration} (ha : a.OfEntry) (hb : b.OfEntry)
    (hs : a.sharesName b = true) (hmay : b.mayRepeat = true) : Repeats a b ∨ Clashes a b := by
  obtain ⟨hname, hspace⟩ := sharesName_iff.mp hs
  rcases hb.form_of_mayRepeat hmay with hf | ⟨hf, hfree⟩
  · rw [inTypeSpace_iff.mpr (.inl hf)] at hspace
    rcases inTypeSpace_iff.mp hspace with hfa | hfa
    · exact .inl (.inl ⟨hfa, hf⟩)
    · exact .inr (.inl ⟨hfa, hf⟩)
  · have hvalue : b.inTypeSpace = false := not_inTypeSpace_of_form (.inr (.inl hf))
    cases ha with
    | type ht =>
      rw [ht, hvalue] at hspace
      cases hspace
    | const hfa => exact .inr (.inr ⟨hfa, hf⟩)
    | function hfa => exact .inl (.inr ⟨hfa, hf⟩)
    | exportAlias _ hn =>
      rw [hname, hfree] at hn
      cases hn

/-- Of two declarations under one name that may both repeat, each repeats the other. -/
theorem OfEntry.repeats {a b : Declaration} (ha : a.OfEntry) (hb : b.OfEntry)
    (hs : a.sharesName b = true) (hmaya : a.mayRepeat = true) (hmayb : b.mayRepeat = true) :
    Repeats a b := by
  rcases ha.repeats_or_clashes hb hs hmayb with h | h
  · exact h
  · rcases h with ⟨hf, -⟩ | ⟨hf, -⟩ <;> rw [mayRepeat_iff, hf] at hmaya <;> simp at hmaya

end Declaration

open Declaration (Repeats Clashes)

/-- Every name is declared once, or again in a form that may repeat. -/
def Coherent (body : List Declaration) : Prop :=
  body.Pairwise fun a b => a.sharesName b = true → Repeats a b

instance (body : List Declaration) : Decidable (Coherent body) :=
  inferInstanceAs (Decidable (body.Pairwise _))

namespace Body

/-- A declaration is the first of its name or stands behind it. -/
theorem eq_or_behind_first {R : Declaration → Declaration → Prop} {body : List Declaration}
    (h : body.Pairwise R) {d first : Declaration} (hd : d ∈ body)
    (hfirst : body.find? (·.sharesName d) = some first) :
    d = first ∨ (first.sharesName d = true ∧ R first d) := by
  obtain ⟨hs, before, behind, rfl, hbefore⟩ := List.find?_eq_some_iff_append.mp hfirst
  rcases List.mem_append.mp hd with hd | hd
  · have hne := hbefore d hd
    rw [Declaration.sharesName_refl] at hne
    cases hne
  · rcases List.mem_cons.mp hd with he | hd
    · exact .inl he
    · have hpair := (List.pairwise_append.mp h).2.1
      exact .inr ⟨hs, (List.pairwise_cons.mp hpair).1 d hd⟩

/-- If something repeats, then the first of its name may. -/
theorem mayRepeat_first {body : List Declaration} (h : Coherent body) {d first : Declaration}
    (hd : d ∈ body) (hmay : d.mayRepeat = true)
    (hfirst : body.find? (·.sharesName d) = some first) : first.mayRepeat = true := by
  rcases eq_or_behind_first h hd hfirst with rfl | ⟨hs, hr⟩
  · exact hmay
  · exact (hr hs).mayRepeat

/-- Whatever follows a declaration of its name may repeat. -/
theorem mayRepeat_of_first {body : List Declaration} (hfollows : body.Pairwise Follows)
    {d first : Declaration} (hd : d ∈ body) (hfirst : body.find? (·.sharesName d) = some first)
    (hmay : first.mayRepeat = true) : d.mayRepeat = true := by
  rcases eq_or_behind_first hfollows hd hfirst with rfl | ⟨hs, hf⟩
  · exact hmay
  · exact hf hs

theorem find?_sharesName_congr {d e : Declaration} (h : d.sharesName e = true)
    (body : List Declaration) : body.find? (·.sharesName d) = body.find? (·.sharesName e) := by
  have hpred : (fun x : Declaration => x.sharesName d) = fun x => x.sharesName e := by
    funext x
    rw [Bool.eq_iff_iff]
    refine ⟨fun hx => Declaration.sharesName_trans hx h, fun hx => ?_⟩
    exact Declaration.sharesName_trans hx (by rw [Declaration.sharesName_comm]; exact h)
  rw [hpred]

/-- If the first declaration of every repeated name may repeat, then all of them do. -/
theorem coherent_of_first {body : List Declaration} (hfollows : body.Pairwise Follows)
    (hentry : ∀ d ∈ body, d.OfEntry)
    (h : ∀ d ∈ body, d.mayRepeat = true → ∀ first,
      body.find? (·.sharesName d) = some first → first.mayRepeat = true) : Coherent body := by
  refine hfollows.imp_of_mem fun {a b} ha hb hab hs => ?_
  have hmayb := hab hs
  have hfound : (body.find? (·.sharesName b)).isSome = true :=
    List.find?_isSome.mpr ⟨a, ha, hs⟩
  obtain ⟨first, hfirst⟩ := Option.isSome_iff_exists.mp hfound
  have hmay := h b hb hmayb first hfirst
  rw [← find?_sharesName_congr hs] at hfirst
  exact (hentry a ha).repeats (hentry b hb) hs (mayRepeat_of_first hfollows ha hfirst hmay) hmayb

end Body

namespace NamespaceSchema

variable (schema : NamespaceSchema) (catalog : Catalog)

theorem ofEntry_of_mem_handed : ∀ d ∈ schema.handed catalog, d.OfEntry :=
  forall_mem_handedFrom (fun entry body => entry.ofEntry_of_mem (schema.scope catalog body)) []
    schema.entries

theorem ofEntry_of_mem_generate : ∀ d ∈ (schema.generate catalog).value, d.OfEntry := by
  intro d hd
  rw [value_generate] at hd
  rcases Body.mem_of_mem_keep hd with hd | hd
  · exact absurd hd List.not_mem_nil
  · exact schema.ofEntry_of_mem_handed catalog d hd

theorem pairwise_follows_generate : (schema.generate catalog).value.Pairwise Body.Follows := by
  rw [value_generate]
  exact Body.pairwise_keep List.Pairwise.nil (schema.handed catalog)

theorem find?_generate (d : Declaration) :
    (schema.generate catalog).value.find? (·.sharesName d) =
      (schema.handed catalog).find? (·.sharesName d) := by
  rw [value_generate, Body.find?_keep, List.nil_append]

/-- **Declarations of one name repeat one form, or clash in one of two ways**, and no two of them
clash exactly if every name that an interface or a function is handed over with is first handed over
with one. -/
theorem generate_sharing :
    (schema.generate catalog).value.Pairwise
        (fun a b => a.sharesName b = true → Repeats a b ∨ Clashes a b) ∧
      (Coherent (schema.generate catalog).value ↔
        ∀ d ∈ schema.handed catalog, d.mayRepeat = true → ∀ first,
          (schema.handed catalog).find? (·.sharesName d) = some first →
            first.mayRepeat = true) := by
  have hentry := schema.ofEntry_of_mem_generate catalog
  have hfollows := schema.pairwise_follows_generate catalog
  refine ⟨?_, ?_, ?_⟩
  · refine hfollows.imp_of_mem fun {a b} ha hb hab hs => ?_
    exact (hentry a ha).repeats_or_clashes (hentry b hb) hs (hab hs)
  · intro h d hd hmay first hfirst
    have hkept : d ∈ (schema.generate catalog).value := by
      rw [value_generate]
      exact Body.mem_keep_of_mayRepeat hd hmay []
    exact Body.mayRepeat_first h hkept hmay ((schema.find?_generate catalog d).trans hfirst)
  · intro h
    refine Body.coherent_of_first hfollows hentry fun d hd hmay first hfirst => ?_
    rw [value_generate] at hd
    have hhanded := (Body.mem_of_mem_keep hd).resolve_left List.not_mem_nil
    exact h d hhanded hmay first ((schema.find?_generate catalog d).symm.trans hfirst)

/-- A text and an object under one id. -/
def twice : NamespaceSchema :=
  { name := "tabs", sourceFile := "tabs.json",
    types := [{ id := some "Tab", typeName := some "string" },
      { id := some "Tab", typeName := some "object" }] }

/-- The other order leaves the alias out. -/
theorem not_coherent_twice :
    ¬Coherent (twice.generate .empty).value ∧
      Coherent ({ twice with types := twice.types.reverse }.generate .empty).value := by
  decide +kernel

end NamespaceSchema

end SchemaTypings
