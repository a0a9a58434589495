import SchemaTypings.Proofs.Declaration.Forms

/-!
# Names that a type mentions

A type mentions a name if the name stands in it as a reference, at any depth. A declaration mentions
what the types in it mention.
-/

namespace SchemaTypings

/-- The types directly in a member. -/
def Member.types {τ : Type} : Member τ → List τ
  | property _ type _ _ => [type]
  | method _ params returns _ => params.map (·.type) ++ [returns]
  | index _ type => [type]

namespace TypeExpr

/-- The types directly in a type. -/
def parts : TypeExpr → List TypeExpr
  | keyword _ | literal _ | reference _ | query _ => []
  | array item => [item]
  | union types | intersection types => types
  | object members => members.flatMap Member.types
  | function params returns => params.map (·.type) ++ [returns]
  | generic _ args => args
  | documented _ type => [type]

/-- The name stands in a type as a reference. -/
inductive Mentions (name : String) : TypeExpr → Prop
  | reference : Mentions name (.reference name)
  | part {t u : TypeExpr} (h : u ∈ t.parts) (hu : Mentions name u) : Mentions name t

variable {name : String}

/-- What is not a reference mentions what its parts mention. -/
theorem Mentions.exists_part {t : TypeExpr} (h : t.Mentions name) (ht : ∀ n, t ≠ .reference n) :
    ∃ u ∈ t.parts, u.Mentions name := by
  cases h with
  | reference => exact absurd rfl (ht name)
  | part hu hm => exact ⟨_, hu, hm⟩

theorem mentions_reference {target : String} (h : (reference target).Mentions name) :
    name = target := by
  cases h with
  | reference => rfl
  | part hu => exact absurd hu List.not_mem_nil

theorem not_mentions_of_parts {t : TypeExpr} (hparts : t.parts = [])
    (ht : ∀ n, t ≠ .reference n) : ¬t.Mentions name := by
  intro h
  obtain ⟨u, hu, -⟩ := h.exists_part ht
  rw [hparts] at hu
  exact absurd hu List.not_mem_nil

theorem not_mentions_keyword (k : Keyword) : ¬(keyword k).Mentions name :=
  not_mentions_of_parts rfl nofun

theorem not_mentions_literal (l : Literal) : ¬(literal l).Mentions name :=
  not_mentions_of_parts rfl nofun

theorem not_mentions_any : ¬any.Mentions name := not_mentions_keyword .any

theorem mentions_generic {generic : String} {args : List TypeExpr}
    (h : (TypeExpr.generic generic args).Mentions name) : ∃ u ∈ args, u.Mentions name :=
  h.exists_part nofun

/-- An object mentions what its members mention. -/
theorem mentions_object {members : List (Member TypeExpr)} (h : (object members).Mentions name) :
    ∃ m ∈ members, ∃ t ∈ m.types, t.Mentions name := by
  obtain ⟨t, ht, hm⟩ := h.exists_part nofun
  obtain ⟨m, hmem, ht⟩ := List.mem_flatMap.mp ht
  exact ⟨m, hmem, t, ht, hm⟩

theorem mentions_stringIndex {value : TypeExpr} (h : (stringIndex value).Mentions name) :
    value.Mentions name := by
  obtain ⟨m, hmem, t, ht, hm⟩ := mentions_object h
  rw [List.mem_singleton.mp hmem] at ht
  rw [List.mem_singleton.mp ht] at hm
  exact hm

end TypeExpr

namespace Declaration

/-- The types directly in a declaration. -/
def types (d : Declaration) : List TypeExpr :=
  match d.body with
  | .interface _ members => members.flatMap Member.types
  | .alias type | .const type => [type]
  | .function params returns => params.map (·.type) ++ [returns]
  | .exportAlias _ | .importAlias _ | .namespace _ => []

/-- The name stands in a declaration as a reference. -/
def Mentions (name : String) (d : Declaration) : Prop := ∃ t ∈ d.types, t.Mentions name

end Declaration

end SchemaTypings
