/-!
# Ordered fields

A list of key and value pairs in the order in which the keys first appeared. `Fields.put` keeps that
order: a key that is present keeps its position and takes the new value, any other goes to the end.
-/

namespace SchemaTypings

/-- Key and value pairs in order of first appearance. -/
abbrev Fields (α : Type u) := List (String × α)

namespace Fields

variable {α : Type u} {β : Type v}

/-- The keys in order. -/
def keys (fields : Fields α) : List String := fields.map Prod.fst

/-- The value of the first pair with this key. -/
def find? (key : String) : Fields α → Option α
  | [] => none
  | (k, value) :: rest => if k = key then some value else find? key rest

/-- Whether the key is present. -/
def has (key : String) (fields : Fields α) : Bool := (find? key fields).isSome

/-- Replace the value of a present key, or append the pair. -/
def put (key : String) (value : α) : Fields α → Fields α
  | [] => [(key, value)]
  | (k, old) :: rest => if k = key then (k, value) :: rest else (k, old) :: put key value rest

theorem find?_put_self (key : String) (value : α) (fields : Fields α) :
    find? key (put key value fields) = some value := by
  induction fields with
  | nil => simp [put, find?]
  | cons entry rest ih =>
    obtain ⟨k, old⟩ := entry
    by_cases h : k = key <;> simp [put, find?, h, ih]

theorem find?_put_of_ne {key other : String} (h : other ≠ key) (value : α) (fields : Fields α) :
    find? other (put key value fields) = find? other fields := by
  induction fields with
  | nil => simp [put, find?, h.symm]
  | cons entry rest ih =>
    obtain ⟨k, old⟩ := entry
    by_cases hk : k = key
    · simp [put, find?, hk, h.symm]
    · simp [put, find?, hk, ih]

theorem keys_append (first second : Fields α) : keys (first ++ second) = keys first ++ keys second :=
  List.map_append

theorem find?_append (key : String) (first second : Fields α) :
    find? key (first ++ second) = (find? key first).or (find? key second) := by
  induction first with
  | nil => rfl
  | cons entry rest ih =>
    obtain ⟨k, value⟩ := entry
    by_cases h : k = key
    · simp [find?, h]
    · simp [find?, h, ih]

theorem has_iff {key : String} {fields : Fields α} : has key fields = true ↔ key ∈ keys fields := by
  induction fields with
  | nil => simp [has, find?, keys]
  | cons entry rest ih =>
    obtain ⟨k, value⟩ := entry
    by_cases h : k = key
    · simp [has, find?, keys, h]
    · have hrest : has key ((k, value) :: rest) = has key rest := by
        simp only [has, find?, if_neg h]
      have hkeys : key ∈ keys ((k, value) :: rest) ↔ key ∈ keys rest := by
        show key ∈ k :: keys rest ↔ key ∈ keys rest
        rw [List.mem_cons]
        exact or_iff_right (Ne.symm h)
      rw [hrest, hkeys, ih]

end Fields

end SchemaTypings
