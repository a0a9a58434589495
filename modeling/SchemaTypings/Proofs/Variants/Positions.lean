import SchemaTypings.Typing.Variants

/-!
# Variants by position

Every variant of a parameter list consists of positions of the list, and what stands at a position is
the same in all variants that keep it: the parameter itself, made mandatory if it is an inner optional
one. That is also how it stands in the full list.

* `all_eq_map`: the variants are numbered, and number `i` keeps the positions `kept params i`.
* `length_all`: there are `2 ^ k` of them for `k` inner optional parameters, a single one above the
  limit.
* `variant_eq_map_kept`: a variant is the full list at the positions that it keeps.
* `innerPositions_congr`, `kept_congr`: positions depend on names and optional markers alone.
-/

namespace SchemaTypings.Variants

/-- Which ranks of inner optional parameters a variant keeps: the first one all of them, every later
one those whose bit is set in the number before it. -/
def pattern : Nat → Nat → Bool
  | 0, _ => true
  | bits + 1, rank => bits.testBit rank

/-- The variant with a number. -/
def variant (params : List Descriptor) (number : Nat) : List Descriptor :=
  variantFrom (pattern number) 0 params

/-- The positions that a choice of ranks keeps, counted from a start. -/
def keptFrom (keep : Nat → Bool) : Nat → Nat → List Descriptor → List Nat
  | _, _, [] => []
  | rank, index, p :: rest =>
    if isInner p rest then
      let others := keptFrom keep (rank + 1) (index + 1) rest
      if keep rank then index :: others else others
    else index :: keptFrom keep rank (index + 1) rest

/-- The positions that a variant keeps. -/
def kept (params : List Descriptor) (number : Nat) : List Nat :=
  keptFrom (pattern number) 0 0 params

/-! ## The number of variants -/

/-- How many variants there are. -/
def count (params : List Descriptor) : Nat :=
  if (innerPositions params).length ≤ limit then Nat.pow 2 (innerPositions params).length else 1

/-- The variants in order of their numbers. -/
theorem all_eq_map (params : List Descriptor) :
    all params = (List.range (count params)).map (variant params) := by
  have hcons : ∀ n, (List.range (n + 1)).map (variant params) =
      full params :: (List.range n).map fun bits => partialOf bits params := by
    intro n
    rw [List.range_succ_eq_map, List.map_cons, List.map_map]
    rfl
  unfold all count
  have hpos := Nat.two_pow_pos (innerPositions params).length
  by_cases hlimit : limit < (innerPositions params).length
  · rw [if_pos (by simp [hlimit]), if_neg (by omega)]
    rfl
  · rw [if_pos (by omega : (innerPositions params).length ≤ limit)]
    by_cases hzero : (innerPositions params).length = 0
    · rw [if_pos (by simp [hzero]), hzero]
      rfl
    · rw [if_neg (by simp [hzero, hlimit])]
      have := hcons (2 ^ (innerPositions params).length - 1)
      rw [Nat.sub_add_cancel hpos] at this
      exact this.symm

theorem length_all (params : List Descriptor) : (all params).length = count params := by
  rw [all_eq_map, List.length_map, List.length_range]

/-! ## What stands at a position -/

/-- A parameter as it stands in the variants that keep it. -/
def standing (p : Descriptor) (later : List Descriptor) : Descriptor :=
  if isInner p later then p.withOptional false else p

theorem variantFrom_true (rank : Nat) (params : List Descriptor) :
    variantFrom (fun _ => true) rank params = full params := by
  unfold full
  induction params generalizing rank with
  | nil => rfl
  | cons p rest ih =>
    rw [variantFrom, variantFrom]
    split
    · simp only [if_true]
      rw [ih (rank + 1), ih (0 + 1)]
    · rw [ih rank]

theorem full_cons (p : Descriptor) (rest : List Descriptor) :
    full (p :: rest) = standing p rest :: full rest := by
  rw [full, variantFrom, standing]
  split <;> simp only [if_true, variantFrom_true]

theorem variantFrom_eq_map (place : Nat → Descriptor) (keep : Nat → Bool) (rank index : Nat)
    (params : List Descriptor) (h : ∀ j p, (full params)[j]? = some p → place (index + j) = p) :
    variantFrom keep rank params = (keptFrom keep rank index params).map place := by
  induction params generalizing rank index with
  | nil => rfl
  | cons p rest ih =>
    rw [full_cons] at h
    have hhead : place index = standing p rest := h 0 _ rfl
    have hrest : ∀ j q, (full rest)[j]? = some q → place (index + 1 + j) = q := by
      intro j q hq
      rw [Nat.add_assoc, Nat.add_comm 1]
      exact h (j + 1) q hq
    rw [variantFrom, keptFrom]
    rw [standing] at hhead
    split at hhead
    next hin =>
      rw [if_pos hin, if_pos hin]
      simp only [ih (rank + 1) (index + 1) hrest]
      split
      · rw [List.map_cons, hhead]
      · rfl
    next hin => rw [if_neg hin, if_neg hin, ih rank (index + 1) hrest, List.map_cons, hhead]

/-- **A variant is the full list at the positions that it keeps.** -/
theorem variant_eq_map_kept (place : Nat → Descriptor) (params : List Descriptor) (number : Nat)
    (h : ∀ j p, (full params)[j]? = some p → place j = p) :
    variant params number = (kept params number).map place :=
  variantFrom_eq_map place _ 0 0 params fun j p hp => by rw [Nat.zero_add]; exact h j p hp

/-! ## What positions depend on -/

/-- What decides whether a parameter is an inner optional one. -/
def outline (p : Descriptor) : Option String × Option Marker := (p.name, p.optional)

theorem isCallback_congr {p q : Descriptor} (h : outline p = outline q) :
    p.isCallback = q.isCallback := by
  rw [Descriptor.isCallback, Descriptor.isCallback, (Prod.mk.inj h).1]

theorem isOptional_congr {p q : Descriptor} (h : outline p = outline q) :
    p.isOptional = q.isOptional := by
  rw [Descriptor.isOptional, Descriptor.isOptional, (Prod.mk.inj h).2]

theorem isInner_congr {p q : Descriptor} {ps qs : List Descriptor} (h : outline p = outline q)
    (hs : ps.map outline = qs.map outline) : isInner p ps = isInner q qs := by
  have hany : (ps.any fun r => !r.isCallback && !r.isOptional) =
      qs.any fun r => !r.isCallback && !r.isOptional := by
    induction ps generalizing qs with
    | nil =>
      cases qs with
      | nil => rfl
      | cons r qs => simp at hs
    | cons r ps ih =>
      cases qs with
      | nil => simp at hs
      | cons t qs =>
        rw [List.map_cons, List.map_cons, List.cons.injEq] at hs
        rw [List.any_cons, List.any_cons, ih hs.2, isCallback_congr hs.1, isOptional_congr hs.1]
  rw [isInner, isInner, isCallback_congr h, isOptional_congr h, hany]

theorem innerPositionsFrom_congr {ps qs : List Descriptor} (h : ps.map outline = qs.map outline)
    (index : Nat) : innerPositionsFrom index ps = innerPositionsFrom index qs := by
  induction ps generalizing qs index with
  | nil =>
    cases qs with
    | nil => rfl
    | cons q qs => simp at h
  | cons p ps ih =>
    cases qs with
    | nil => simp at h
    | cons q qs =>
      rw [List.map_cons, List.map_cons, List.cons.injEq] at h
      rw [innerPositionsFrom, innerPositionsFrom, isInner_congr h.1 h.2, ih h.2]

theorem innerPositions_congr {ps qs : List Descriptor} (h : ps.map outline = qs.map outline) :
    innerPositions ps = innerPositions qs :=
  innerPositionsFrom_congr h 0

theorem keptFrom_congr {ps qs : List Descriptor} (h : ps.map outline = qs.map outline)
    (keep : Nat → Bool) (rank index : Nat) :
    keptFrom keep rank index ps = keptFrom keep rank index qs := by
  induction ps generalizing qs rank index with
  | nil =>
    cases qs with
    | nil => rfl
    | cons q qs => simp at h
  | cons p ps ih =>
    cases qs with
    | nil => simp at h
    | cons q qs =>
      rw [List.map_cons, List.map_cons, List.cons.injEq] at h
      rw [keptFrom, keptFrom, isInner_congr h.1 h.2, ih h.2, ih h.2]

theorem kept_congr {ps qs : List Descriptor} (h : ps.map outline = qs.map outline)
    (number : Nat) : kept ps number = kept qs number :=
  keptFrom_congr h _ 0 0

/-! ## The callback -/

/-- Whether the parameter at a position is the callback. -/
def isCallbackAt (params : List Descriptor) (j : Nat) : Bool := params[j]?.any (·.isCallback)

theorem isCallbackAt_congr {ps qs : List Descriptor} (h : ps.map outline = qs.map outline)
    (j : Nat) : isCallbackAt ps j = isCallbackAt qs j := by
  have hj : ps[j]?.map outline = qs[j]?.map outline := by
    rw [← List.getElem?_map, ← List.getElem?_map, h]
  unfold isCallbackAt
  cases hp : ps[j]? with
  | none =>
    cases hq : qs[j]? with
    | none => rfl
    | some q => simp [hp, hq] at hj
  | some p =>
    cases hq : qs[j]? with
    | none => simp [hp, hq] at hj
    | some q =>
      rw [hp, hq] at hj
      exact isCallback_congr (Option.some.inj hj)

theorem isCallback_standing (p : Descriptor) (later : List Descriptor) :
    (standing p later).isCallback = p.isCallback := by
  unfold standing
  split <;> rfl

theorem isCallbackAt_full (params : List Descriptor) (j : Nat) :
    isCallbackAt (full params) j = isCallbackAt params j := by
  induction params generalizing j with
  | nil => rfl
  | cons p rest ih =>
    rw [full_cons]
    cases j with
    | zero => exact isCallback_standing p rest
    | succ j => exact ih j

theorem not_isCallback_of_isInner {p : Descriptor} {later : List Descriptor}
    (h : isInner p later = true) : p.isCallback = false := by
  unfold isInner at h
  rw [Bool.and_eq_true, Bool.and_eq_true, Bool.not_eq_true'] at h
  exact h.1.1

/-- Every variant has the same callback. -/
theorem find?_isCallback_variant (params : List Descriptor) (number : Nat) :
    (variant params number).find? (·.isCallback) = params.find? (·.isCallback) := by
  unfold variant
  generalize pattern number = keep
  generalize (0 : Nat) = rank
  induction params generalizing rank with
  | nil => rfl
  | cons p rest ih =>
    rw [variantFrom]
    split
    next hin =>
      have hp := not_isCallback_of_isInner hin
      have hp' : (p.withOptional false).isCallback = false := hp
      have hrest : (p :: rest).find? (·.isCallback) = rest.find? (·.isCallback) :=
        List.find?_cons_of_neg (by simp [hp])
      dsimp only
      split
      · rw [List.find?_cons_of_neg (by simp [hp']), ih, hrest]
      · rw [ih, hrest]
    next => rw [List.find?_cons, List.find?_cons, ih]

end SchemaTypings.Variants
