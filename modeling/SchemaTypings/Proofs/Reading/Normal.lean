import SchemaTypings.Declaration.Basic

/-!
# Types up to what a text cannot show

A written type shows neither its comments nor how its unions and intersections are nested: members of a
union of unions stand side by side, a union of one type is that type, and the union of none is written
`never`. The normal form of a type has no comments and no such nesting.

* `TypeExpr.normal`: the normal form.
* `Junction`: what unions and intersections have in common.
* `Junction.operands`: the operands that stand side by side in a written union or intersection.
* `TypeExpr.normal_eq_join`: a normal form is put together from the normal forms of the operands.
-/

namespace SchemaTypings

/-- A way of joining several types. -/
inductive Junction where
  | union
  | intersection
deriving DecidableEq

namespace Junction

/-- The joined type as it is. -/
def make : Junction → List TypeExpr → TypeExpr
  | union, types => .union types
  | intersection, types => .intersection types

/-- What joining nothing is read as. -/
def empty : Junction → TypeExpr
  | union => .keyword .never
  | intersection => .intersection []

/-- The joined type, itself if it is one. -/
def join (j : Junction) : List TypeExpr → TypeExpr
  | [] => j.empty
  | [t] => t
  | types => j.make types

/-- The types that a type joins; any other joins itself alone. -/
def parts : Junction → TypeExpr → List TypeExpr
  | union, .union types => types
  | intersection, .intersection types => types
  | _, t => [t]

end Junction

namespace TypeExpr

mutual

/-- The type without comments, nested junctions flattened. -/
def normal : TypeExpr → TypeExpr
  | keyword k => keyword k
  | literal l => literal l
  | array item => array (normal item)
  | union types => Junction.union.join ((normalAll types).flatMap Junction.union.parts)
  | intersection types =>
    Junction.intersection.join ((normalAll types).flatMap Junction.intersection.parts)
  | object members => object (normalMembers members)
  | function params returns => function (normalParams params) (normal returns)
  | reference name => reference name
  | generic name args => generic name (normalAll args)
  | query name => query name
  | documented _ type => normal type

/-- The normal forms of several types. -/
def normalAll : List TypeExpr → List TypeExpr
  | [] => []
  | t :: ts => normal t :: normalAll ts

/-- Parameters with their types in normal form. -/
def normalParams : List (Param TypeExpr) → List (Param TypeExpr)
  | [] => []
  | p :: ps => normalParam p :: normalParams ps

/-- A parameter with its type in normal form. -/
def normalParam : Param TypeExpr → Param TypeExpr
  | ⟨name, type, optional, rest⟩ => ⟨name, normal type, optional, rest⟩

/-- Members with their types in normal form. -/
def normalMembers : List (Member TypeExpr) → List (Member TypeExpr)
  | [] => []
  | m :: ms => normalMember m :: normalMembers ms

/-- A member with its types in normal form. -/
def normalMember : Member TypeExpr → Member TypeExpr
  | .property name type optional _ => .property name (normal type) optional .none
  | .method name params returns _ => .method name (normalParams params) (normal returns) .none
  | .index key value => .index key (normal value)

end

theorem normalAll_eq_map (types : List TypeExpr) : normalAll types = types.map normal := by
  induction types with
  | nil => rfl
  | cons t ts ih => rw [normalAll, ih, List.map_cons]

theorem normalParams_eq_map (params : List (Param TypeExpr)) :
    normalParams params = params.map normalParam := by
  induction params with
  | nil => rfl
  | cons p ps ih => rw [normalParams, ih, List.map_cons]

theorem normalMembers_eq_map (members : List (Member TypeExpr)) :
    normalMembers members = members.map normalMember := by
  induction members with
  | nil => rfl
  | cons m ms ih => rw [normalMembers, ih, List.map_cons]

/-- No junction directly in a junction of its kind, and none that joins a single type. -/
structure Flat (t : TypeExpr) : Prop where
  join_parts : ∀ j : Junction, j.join (j.parts t) = t
  parts_parts : ∀ (j : Junction), ∀ u ∈ j.parts t, j.parts u = [u]

theorem flat_of_parts {t : TypeExpr} (h : ∀ j : Junction, j.parts t = [t]) : t.Flat := by
  constructor
  · intro j
    rw [h j]
    rfl
  · intro j u hu
    rw [h j] at hu
    rw [List.mem_singleton.mp hu, h j]

end TypeExpr

namespace Junction

variable (j : Junction)

theorem parts_make (types : List TypeExpr) : j.parts (j.make types) = types := by
  cases j <;> rfl

theorem parts_make_of_ne {k : Junction} (h : k ≠ j) (types : List TypeExpr) :
    k.parts (j.make types) = [j.make types] := by
  cases j <;> cases k <;> first | exact absurd rfl h | rfl

theorem flat_empty : j.empty.Flat := by
  constructor
  · rintro (_ | _) <;> cases j <;> rfl
  · rintro (_ | _) u hu <;> cases j <;> simp_all [parts, empty]

variable {types : List TypeExpr}

/-- Joining the parts of flat types makes a flat type. -/
theorem flat_join (h : ∀ t ∈ types, t.Flat) : (j.join (types.flatMap j.parts)).Flat := by
  have hparts : ∀ u ∈ types.flatMap j.parts, j.parts u = [u] := by
    intro u hu
    obtain ⟨t, ht, hut⟩ := List.mem_flatMap.mp hu
    exact (h t ht).parts_parts j u hut
  rcases hl : types.flatMap j.parts with _ | ⟨u, _ | ⟨v, rest⟩⟩
  · exact j.flat_empty
  · -- a single part is one of the types
    have hu : u ∈ types.flatMap j.parts := by rw [hl]; exact List.mem_singleton_self u
    obtain ⟨t, ht, hut⟩ := List.mem_flatMap.mp hu
    have hone : j.parts t = [u] := by
      have hsub : (j.parts t).Sublist [u] := by
        rw [← hl, List.flatMap_def]
        exact List.sublist_flatten_of_mem (List.mem_map_of_mem ht)
      exact hsub.eq_of_length_le (List.length_pos_of_mem hut)
    have hself := (h t ht).join_parts j
    rw [hone] at hself
    exact hself ▸ h t ht
  · rw [hl] at hparts
    show (j.make (u :: v :: rest)).Flat
    constructor
    · intro k
      by_cases hk : k = j
      · subst hk
        rw [parts_make]
        rfl
      · rw [j.parts_make_of_ne hk]
        rfl
    · intro k w hw
      by_cases hk : k = j
      · subst hk
        rw [parts_make] at hw
        exact hparts w hw
      · rw [j.parts_make_of_ne hk] at hw
        rw [List.mem_singleton.mp hw, j.parts_make_of_ne hk]

/-- What was joined are the parts again; nothing at all is read as a type of its own by a union alone. -/
theorem parts_join (h : ∀ u ∈ types, j.parts u = [u]) (hne : j = union → types ≠ []) :
    j.parts (j.join types) = types := by
  rcases types with _ | ⟨u, _ | ⟨v, rest⟩⟩
  · cases j with
    | union => exact absurd rfl (hne rfl)
    | intersection => rfl
  · exact h u List.mem_cons_self
  · exact j.parts_make (u :: v :: rest)

theorem parts_ne_nil {t : TypeExpr} (h : t.Flat) : union.parts t ≠ [] := by
  intro hnil
  have hself := h.join_parts union
  rw [hnil] at hself
  rw [← hself] at hnil
  cases hnil

end Junction

namespace TypeExpr

mutual

/-- Nothing is left to flatten in a normal form. -/
theorem flat_normal : ∀ t : TypeExpr, t.normal.Flat
  | keyword _ => flat_of_parts fun j => by cases j <;> rfl
  | literal _ => flat_of_parts fun j => by cases j <;> rfl
  | array _ => flat_of_parts fun j => by cases j <;> rfl
  | union types => Junction.union.flat_join (flat_normalAll types)
  | intersection types => Junction.intersection.flat_join (flat_normalAll types)
  | object _ => flat_of_parts fun j => by cases j <;> rfl
  | function _ _ => flat_of_parts fun j => by cases j <;> rfl
  | reference _ => flat_of_parts fun j => by cases j <;> rfl
  | generic _ _ => flat_of_parts fun j => by cases j <;> rfl
  | query _ => flat_of_parts fun j => by cases j <;> rfl
  | documented _ type => flat_normal type

theorem flat_normalAll : ∀ types : List TypeExpr, ∀ t ∈ normalAll types, t.Flat
  | [], _, ht => absurd ht List.not_mem_nil
  | t :: ts, u, hu => by
    rcases List.mem_cons.mp hu with rfl | hu
    · exact flat_normal t
    · exact flat_normalAll ts u hu

end

end TypeExpr

/-! ## Operands -/

namespace Junction

mutual

/-- The operands that stand side by side where a type is written as an operand. -/
def operands (j : Junction) : TypeExpr → List TypeExpr
  | .union (t :: ts) =>
    match j with
    | union => operandsAll j (t :: ts)
    | intersection => [.union (t :: ts)]
  | .intersection (t :: ts) =>
    match j with
    | union => [.intersection (t :: ts)]
    | intersection => operandsAll j (t :: ts)
  | t => [t]

/-- The operands of several types. -/
def operandsAll (j : Junction) : List TypeExpr → List TypeExpr
  | [] => []
  | t :: ts => operands j t ++ operandsAll j ts

end

variable (j : Junction)

theorem parts_join_normal {types : List TypeExpr} (hne : types ≠ []) :
    j.parts (j.join ((TypeExpr.normalAll types).flatMap j.parts)) =
      (TypeExpr.normalAll types).flatMap j.parts := by
  have hflat := TypeExpr.flat_normalAll types
  refine j.parts_join (fun u hu => ?_) ?_
  · obtain ⟨t, ht, hut⟩ := List.mem_flatMap.mp hu
    exact (hflat t ht).parts_parts j u hut
  · rintro rfl hnil
    obtain ⟨t, rest, rfl⟩ := List.exists_cons_of_ne_nil hne
    exact parts_ne_nil (TypeExpr.flat_normal t)
      (List.flatMap_eq_nil_iff.mp hnil t.normal List.mem_cons_self)

mutual

/-- The parts of a normal form are those of its operands. -/
theorem parts_normal (j : Junction) : ∀ t : TypeExpr,
    j.parts t.normal = (j.operands t).flatMap fun u => j.parts u.normal
  | .union (t :: ts) => by
    cases j with
    | union => exact (parts_join_normal union (List.cons_ne_nil t ts)).trans (parts_normalAll union (t :: ts))
    | intersection => exact (List.flatMap_singleton _ _).symm
  | .intersection (t :: ts) => by
    cases j with
    | union => exact (List.flatMap_singleton _ _).symm
    | intersection =>
      exact (parts_join_normal intersection (List.cons_ne_nil t ts)).trans
        (parts_normalAll intersection (t :: ts))
  | .union [] => by cases j <;> rfl
  | .intersection [] => by cases j <;> rfl
  | .keyword _ => (List.flatMap_singleton _ _).symm
  | .literal _ => (List.flatMap_singleton _ _).symm
  | .array _ => (List.flatMap_singleton _ _).symm
  | .object _ => (List.flatMap_singleton _ _).symm
  | .function _ _ => (List.flatMap_singleton _ _).symm
  | .reference _ => (List.flatMap_singleton _ _).symm
  | .generic _ _ => (List.flatMap_singleton _ _).symm
  | .query _ => (List.flatMap_singleton _ _).symm
  | .documented _ _ => (List.flatMap_singleton _ _).symm

theorem parts_normalAll (j : Junction) : ∀ types : List TypeExpr,
    (TypeExpr.normalAll types).flatMap j.parts =
      (j.operandsAll types).flatMap fun u => j.parts u.normal
  | [] => rfl
  | t :: ts => by
    rw [TypeExpr.normalAll, operandsAll, List.flatMap_cons, List.flatMap_append, parts_normal j t,
      parts_normalAll j ts]

end

/-- A normal form is put together from those of the operands. -/
theorem normal_eq_join (t : TypeExpr) :
    t.normal = j.join ((j.operands t).flatMap fun u => j.parts u.normal) := by
  rw [← parts_normal, (TypeExpr.flat_normal t).join_parts]

/-- Types joined as they are, one alone being itself. -/
def joined (j : Junction) : List TypeExpr → TypeExpr
  | [t] => t
  | types => j.make types

theorem normal_make (types : List TypeExpr) :
    (j.make types).normal = j.join (types.flatMap fun u => j.parts u.normal) := by
  have hparts : (TypeExpr.normalAll types).flatMap j.parts =
      types.flatMap fun u => j.parts u.normal := by
    rw [TypeExpr.normalAll_eq_map, List.flatMap_map]
  rw [← hparts]
  cases j <;> rfl

theorem normal_joined (types : List TypeExpr) :
    (j.joined types).normal = j.join (types.flatMap fun u => j.parts u.normal) := by
  rcases types with _ | ⟨t, _ | ⟨u, rest⟩⟩
  · exact j.normal_make []
  · exact ((TypeExpr.flat_normal t).join_parts j).symm.trans (congrArg j.join (List.append_nil _).symm)
  · exact j.normal_make (t :: u :: rest)

/-- Operands with the same normal forms join to the same normal form. -/
theorem normal_joined_operands {t : TypeExpr} {types : List TypeExpr}
    (h : types.map TypeExpr.normal = (j.operands t).map TypeExpr.normal) :
    (j.joined types).normal = t.normal := by
  have hflat : ∀ ts : List TypeExpr, (ts.flatMap fun u => j.parts u.normal) =
      (ts.map TypeExpr.normal).flatMap j.parts := fun ts => (List.flatMap_map _ _ _).symm
  rw [normal_joined, normal_eq_join j t, hflat, hflat, h]

end Junction

end SchemaTypings
