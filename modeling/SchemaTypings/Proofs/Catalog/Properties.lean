import Mathlib.Data.List.Induction
import Mathlib.Data.List.Nodup
import SchemaTypings.Catalog.Basic

/-!
# Properties of a namespace

The properties of a namespace stand in the order in which their keys first appeared, each with its first
definition. Adding properties keeps this form, and reports each definition whose key is there already.

* `Fields.firsts`: fields without those whose keys came before.
* `NamespaceSchema.value_addProperties`, `NamespaceSchema.diagnostics_addProperties`: what adding
  properties leaves behind.
-/

namespace SchemaTypings

/-! ## First appearances -/

section FirstAppearances

variable {α : Type} [DecidableEq α]

theorem eraseDups_concat (l : List α) (a : α) :
    (l ++ [a]).eraseDups = if a ∈ l then l.eraseDups else l.eraseDups ++ [a] := by
  rw [List.eraseDups_append, List.removeAll]
  by_cases h : a ∈ l
  · simp [h]
  · simp [h, List.eraseDups_cons]

theorem nodup_eraseDups (l : List α) : l.eraseDups.Nodup := by
  induction l using List.reverseRecOn with
  | nil => exact List.nodup_nil
  | append_singleton l a ih =>
    rw [eraseDups_concat]
    split
    · exact ih
    · rename_i h
      refine ih.append (List.nodup_singleton a) ?_
      intro b hb ha
      rw [List.mem_singleton.mp ha, List.mem_eraseDups] at hb
      exact h hb

end FirstAppearances

/-- Each element together with those before it. -/
def withEarlier {α : Type} (earlier : List α) : List α → List (List α × α)
  | [] => []
  | a :: rest => (earlier, a) :: withEarlier (earlier ++ [a]) rest

/-- The keys that were there before, one for each time they come again. -/
def repeatedKeys (known keys : List String) : List String :=
  ((withEarlier known keys).filter fun turn => turn.2 ∈ turn.1).map Prod.snd

theorem repeatedKeys_cons (known : List String) (key : String) (keys : List String) :
    repeatedKeys known (key :: keys) =
      if key ∈ known then key :: repeatedKeys (known ++ [key]) keys
      else repeatedKeys (known ++ [key]) keys := by
  rw [repeatedKeys, withEarlier, List.filter_cons, apply_ite (List.map Prod.snd)]
  simp only [decide_eq_true_eq]
  rfl

namespace Fields

variable {α : Type}

/-- Each key once, in the order of first appearance, with its first value. -/
def firsts (fields : Fields α) : Fields α :=
  (keys fields).eraseDups.filterMap fun key => (find? key fields).map (key, ·)

theorem firsts_concat (fields : Fields α) (key : String) (value : α) :
    firsts (fields ++ [(key, value)]) =
      if key ∈ keys fields then firsts fields else firsts fields ++ [(key, value)] := by
  have hstays : ∀ k ∈ (keys fields).eraseDups,
      (find? k (fields ++ [(key, value)])).map (k, ·) = (find? k fields).map (k, ·) := by
    intro k hk
    have hhas : has k fields = true := has_iff.mpr (List.mem_eraseDups.mp hk)
    rw [find?_append, Option.or_of_isSome hhas]
  have hkeys : keys (fields ++ [(key, value)]) = keys fields ++ [key] := keys_append ..
  rw [firsts, hkeys, eraseDups_concat]
  by_cases h : key ∈ keys fields
  · rw [if_pos h, if_pos h]
    exact List.filterMap_congr hstays
  · have hnone : find? key fields = none := by
      rw [← Option.not_isSome_iff_eq_none]
      exact fun hhas => h (has_iff.mp hhas)
    rw [if_neg h, if_neg h, List.filterMap_append, List.filterMap_congr hstays]
    simp [firsts, find?_append, hnone, find?]

theorem keys_firsts (fields : Fields α) : keys (firsts fields) = (keys fields).eraseDups := by
  induction fields using List.reverseRecOn with
  | nil => rfl
  | append_singleton fields entry ih =>
    obtain ⟨key, value⟩ := entry
    have hkeys : keys (fields ++ [(key, value)]) = keys fields ++ [key] := keys_append ..
    rw [firsts_concat, hkeys, eraseDups_concat]
    split
    · exact ih
    · rw [keys_append, ih]
      rfl

theorem has_firsts {key : String} {fields : Fields α} :
    has key (firsts fields) = true ↔ key ∈ keys fields := by
  rw [has_iff, keys_firsts, List.mem_eraseDups]

end Fields

/-! ## Adding properties -/

namespace NamespaceSchema

theorem value_addProperties (space file : String) (fields more : Fields Descriptor) :
    (addProperties space file fields.firsts more).value = Fields.firsts (fields ++ more) := by
  induction more generalizing fields with
  | nil =>
    rw [List.append_nil]
    rfl
  | cons entry more ih =>
    obtain ⟨key, d⟩ := entry
    have hfirsts := Fields.firsts_concat fields key d
    rw [addProperties, List.append_cons fields, ← ih]
    by_cases h : key ∈ fields.keys
    · rw [if_pos h] at hfirsts
      rw [if_pos (Fields.has_firsts.mpr h), hfirsts]
      rfl
    · rw [if_neg h] at hfirsts
      rw [if_neg (mt Fields.has_firsts.mp h), hfirsts]

theorem diagnostics_addProperties (space file : String) (fields more : Fields Descriptor) :
    (addProperties space file fields.firsts more).diagnostics =
      (repeatedKeys fields.keys more.keys).map fun key =>
        ⟨.warning, some space, .duplicateProperty key file⟩ := by
  induction more generalizing fields with
  | nil => rfl
  | cons entry more ih =>
    obtain ⟨key, d⟩ := entry
    have hfirsts := Fields.firsts_concat fields key d
    have hkeys : Fields.keys (fields ++ [(key, d)]) = fields.keys ++ [key] :=
      Fields.keys_append fields [(key, d)]
    have hmore := ih (fields ++ [(key, d)])
    rw [hkeys] at hmore
    show _ = (repeatedKeys fields.keys (key :: Fields.keys more)).map _
    rw [addProperties, repeatedKeys_cons]
    by_cases h : key ∈ fields.keys
    · rw [if_pos h] at hfirsts
      rw [if_pos (Fields.has_firsts.mpr h), if_pos h, Reporting.diagnostics_bind,
        Reporting.diagnostics_warn, ← hfirsts, hmore]
      rfl
    · rw [if_neg h] at hfirsts
      rw [if_neg (mt Fields.has_firsts.mp h), if_neg h, ← hfirsts, hmore]

end NamespaceSchema

end SchemaTypings
