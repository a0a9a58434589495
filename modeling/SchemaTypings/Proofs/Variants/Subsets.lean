import Mathlib.Data.Finset.Powerset
import Mathlib.Data.Fintype.EquivFin
import SchemaTypings.Proofs.Variants.Positions

/-!
# Variants and subsets

The variants of a parameter list stand for the subsets of its inner optional positions, one variant for
each subset and the full set first; above the limit the full set is the only one.

* `mem_inner`: which positions are inner optional ones.
* `variant_eq_chosen`: a variant is the list for the subset that its number stands for.
* `subsetOf_injective`: different numbers stand for different subsets.
* `all_enumeration`: all of it together.
-/

namespace SchemaTypings.Variants

/-- The inner optional positions as a set. -/
def inner (params : List Descriptor) : Finset Nat := (innerPositions params).toFinset

/-- What becomes of the parameter at a position: an inner optional one is mandatory if it is chosen and
left out if not, and any other stays as it is. -/
def choose (optional chosen : Finset Nat) (entry : Descriptor × Nat) : Option Descriptor :=
  if entry.2 ∈ optional then
    if entry.2 ∈ chosen then some (entry.1.withOptional false) else none
  else some entry.1

/-- The parameter list for a set of chosen positions. -/
def chosen (params : List Descriptor) (positions : Finset Nat) : List Descriptor :=
  params.zipIdx.filterMap (choose (inner params) positions)

/-- The variants are an enumeration of the subsets of the inner optional positions. -/
structure Enumeration (params : List Descriptor) : Prop where
  /-- An inner optional parameter is optional, is not the callback and stands before a mandatory one
  that is not the callback. -/
  positions : ∀ j, j ∈ inner params ↔
    ∃ p, params[j]? = some p ∧ p.isOptional = true ∧ p.isCallback = false ∧
      ∃ i q, j < i ∧ params[i]? = some q ∧ q.isOptional = false ∧ q.isCallback = false
  /-- Up to the limit there are as many variants as subsets, -/
  number : (inner params).card ≤ limit → (all params).length = 2 ^ (inner params).card
  /-- each variant is the list for a subset of its own, and the first one that for the full set. -/
  subsets : (inner params).card ≤ limit →
    ∃ subset : Fin (all params).length ≃ (inner params).powerset,
      (∀ i, (all params).get i = chosen params (subset i)) ∧
        ∀ i, i.val = 0 → (subset i).val = inner params
  /-- Above the limit there is the list for the full set alone. -/
  above : limit < (inner params).card → all params = [chosen params (inner params)]

/-! ## Positions -/

theorem mem_innerPositionsFrom {start j : Nat} {params : List Descriptor} :
    j ∈ innerPositionsFrom start params ↔
      ∃ n p, j = start + n ∧ params[n]? = some p ∧ isInner p (params.drop (n + 1)) = true := by
  induction params generalizing start with
  | nil => simp [innerPositionsFrom]
  | cons p rest ih =>
    have hmem : j ∈ innerPositionsFrom start (p :: rest) ↔
        (j = start ∧ isInner p rest = true) ∨ j ∈ innerPositionsFrom (start + 1) rest := by
      rw [innerPositionsFrom]
      split
      next hin => simp [hin]
      next hin => simp [hin]
    rw [hmem, ih]
    constructor
    · rintro (⟨rfl, hin⟩ | ⟨n, q, rfl, hq, hin⟩)
      · exact ⟨0, p, rfl, rfl, hin⟩
      · exact ⟨n + 1, q, by omega, hq, hin⟩
    · rintro ⟨n, q, rfl, hq, hin⟩
      cases n with
      | zero =>
        cases hq
        exact .inl ⟨rfl, hin⟩
      | succ n => exact .inr ⟨n, q, by omega, hq, hin⟩

theorem pairwise_innerPositionsFrom (start : Nat) (params : List Descriptor) :
    (innerPositionsFrom start params).Pairwise (· < ·) := by
  induction params generalizing start with
  | nil => exact .nil
  | cons p rest ih =>
    rw [innerPositionsFrom]
    split
    · refine List.pairwise_cons.mpr ⟨fun j hj => ?_, ih (start + 1)⟩
      obtain ⟨n, -, rfl, -⟩ := mem_innerPositionsFrom.mp hj
      omega
    · exact ih (start + 1)

theorem nodup_innerPositions (params : List Descriptor) : (innerPositions params).Nodup :=
  (pairwise_innerPositionsFrom 0 params).imp fun h => Nat.ne_of_lt h

theorem card_inner (params : List Descriptor) :
    (inner params).card = (innerPositions params).length :=
  List.toFinset_card_of_nodup (nodup_innerPositions params)

theorem mem_inner_iff {params : List Descriptor} {n : Nat} {p : Descriptor}
    (hp : params[n]? = some p) :
    n ∈ inner params ↔ isInner p (params.drop (n + 1)) = true := by
  rw [inner, List.mem_toFinset, innerPositions, mem_innerPositionsFrom]
  constructor
  · rintro ⟨m, q, hm, hq, hin⟩
    obtain rfl : n = m := by omega
    rw [hp] at hq
    cases hq
    exact hin
  · exact fun hin => ⟨n, p, (Nat.zero_add n).symm, hp, hin⟩

theorem any_drop_iff {params : List Descriptor} {n : Nat} {f : Descriptor → Bool} :
    (params.drop (n + 1)).any f = true ↔ ∃ i q, n < i ∧ params[i]? = some q ∧ f q = true := by
  rw [List.any_eq_true]
  constructor
  · rintro ⟨q, hq, hf⟩
    obtain ⟨m, hm⟩ := List.mem_iff_getElem?.mp hq
    rw [List.getElem?_drop] at hm
    exact ⟨n + 1 + m, q, by omega, hm, hf⟩
  · rintro ⟨i, q, hi, hq, hf⟩
    refine ⟨q, List.mem_iff_getElem?.mpr ⟨i - (n + 1), ?_⟩, hf⟩
    rw [List.getElem?_drop, ← hq]
    congr 1
    omega

/-- **An inner optional parameter stands before a mandatory one.** -/
theorem mem_inner (params : List Descriptor) (j : Nat) :
    j ∈ inner params ↔
      ∃ p, params[j]? = some p ∧ p.isOptional = true ∧ p.isCallback = false ∧
        ∃ i q, j < i ∧ params[i]? = some q ∧ q.isOptional = false ∧ q.isCallback = false := by
  have hstep {p : Descriptor} (hp : params[j]? = some p) :
      j ∈ inner params ↔ p.isOptional = true ∧ p.isCallback = false ∧
        ∃ i q, j < i ∧ params[i]? = some q ∧ q.isOptional = false ∧ q.isCallback = false := by
    rw [mem_inner_iff hp, isInner, Bool.and_eq_true, Bool.and_eq_true, any_drop_iff]
    simp only [Bool.and_eq_true, Bool.not_eq_true']
    grind
  constructor
  · intro hj
    cases hp : params[j]? with
    | none =>
      rw [inner, List.mem_toFinset, innerPositions, mem_innerPositionsFrom] at hj
      obtain ⟨n, p, hn, hq, -⟩ := hj
      rw [show j = n by omega, hq] at hp
      cases hp
    | some p => exact ⟨p, rfl, (hstep hp).mp hj⟩
  · rintro ⟨p, hp, h⟩
    exact (hstep hp).mpr h

/-! ## The subset of a number -/

/-- The positions that the variant with a number keeps of the inner optional ones. -/
def subsetOf (params : List Descriptor) (number : Nat) : Finset Nat :=
  (inner params).filter fun j => pattern number ((innerPositions params).idxOf j) = true

theorem mem_subsetOf {params : List Descriptor} {rank j : Nat}
    (hj : (innerPositions params)[rank]? = some j) (number : Nat) :
    j ∈ subsetOf params number ↔ pattern number rank = true := by
  obtain ⟨hrank, rfl⟩ := List.getElem?_eq_some_iff.mp hj
  have hmem : (innerPositions params)[rank] ∈ inner params :=
    List.mem_toFinset.mpr (List.getElem_mem hrank)
  rw [subsetOf, Finset.mem_filter, (nodup_innerPositions params).idxOf_getElem rank hrank]
  exact and_iff_right hmem

theorem subsetOf_zero (params : List Descriptor) : subsetOf params 0 = inner params :=
  Finset.filter_true_of_mem fun _ _ => rfl

/-- The ranks that a choice keeps are the positions that a set keeps. -/
theorem variantFrom_eq_filterMap (optional chosen : Finset Nat) (keep : Nat → Bool)
    (rank start : Nat) (params : List Descriptor)
    (hin : ∀ n p, params[n]? = some p →
      (start + n ∈ optional ↔ isInner p (params.drop (n + 1)) = true))
    (hkeep : ∀ r j, (innerPositionsFrom start params)[r]? = some j →
      (j ∈ chosen ↔ keep (rank + r) = true)) :
    variantFrom keep rank params = (params.zipIdx start).filterMap (choose optional chosen) := by
  induction params generalizing rank start with
  | nil => rfl
  | cons p rest ih =>
    have hhead : start ∈ optional ↔ isInner p rest = true := hin 0 p rfl
    have htail : ∀ n q, rest[n]? = some q →
        (start + 1 + n ∈ optional ↔ isInner q (rest.drop (n + 1)) = true) := by
      intro n q hq
      rw [Nat.add_assoc, Nat.add_comm 1]
      exact hin (n + 1) q hq
    rw [variantFrom, List.zipIdx_cons, List.filterMap_cons]
    rw [innerPositionsFrom] at hkeep
    by_cases h : isInner p rest = true
    · rw [if_pos h] at hkeep ⊢
      have hfirst : start ∈ chosen ↔ keep rank = true := hkeep 0 start rfl
      have hrest := ih (rank + 1) (start + 1) htail fun r j hj => by
        rw [Nat.add_assoc, Nat.add_comm 1]
        exact hkeep (r + 1) j hj
      dsimp only
      by_cases hk : keep rank = true
      · rw [if_pos hk, choose, if_pos (hhead.mpr h), if_pos (hfirst.mpr hk), hrest]
      · rw [if_neg hk, choose, if_pos (hhead.mpr h), if_neg (mt hfirst.mp hk), hrest]
    · rw [if_neg h] at hkeep ⊢
      rw [choose, if_neg (mt hhead.mp h), ih rank (start + 1) htail hkeep]

/-- **A variant is the list for the subset of its number.** -/
theorem variant_eq_chosen (params : List Descriptor) (number : Nat) :
    variant params number = chosen params (subsetOf params number) := by
  refine variantFrom_eq_filterMap _ _ _ 0 0 params (fun n p hp => ?_) fun r j hj => ?_
  · rw [Nat.zero_add]
    exact mem_inner_iff hp
  · rw [Nat.zero_add]
    exact mem_subsetOf hj number

/-! ## Numbers as bits -/

/-- The number whose bits are the pattern of a variant among `k` ranks. -/
def bits (k : Nat) : Nat → Nat
  | 0 => 2 ^ k - 1
  | number + 1 => number

theorem bits_lt {k number : Nat} (h : number < 2 ^ k) : bits k number < 2 ^ k := by
  cases number with
  | zero => exact Nat.sub_lt h Nat.one_pos
  | succ number => exact Nat.lt_of_succ_lt h

theorem testBit_bits {k rank : Nat} (h : rank < k) (number : Nat) :
    (bits k number).testBit rank = pattern number rank := by
  cases number with
  | zero => rw [bits, Nat.testBit_two_pow_sub_one, decide_eq_true h, pattern]
  | succ number => rfl

theorem bits_injective {k m n : Nat} (hm : m < 2 ^ k) (hn : n < 2 ^ k)
    (h : bits k m = bits k n) : m = n := by
  -- the full pattern is numbered first, so no later number may have all bits
  cases m <;> cases n <;> simp only [bits] at h <;> omega

/-- **Different numbers stand for different subsets.** -/
theorem subsetOf_injective {params : List Descriptor} {m n : Nat}
    (hm : m < 2 ^ (innerPositions params).length) (hn : n < 2 ^ (innerPositions params).length)
    (h : subsetOf params m = subsetOf params n) : m = n := by
  refine bits_injective hm hn (Nat.eq_of_testBit_eq fun rank => ?_)
  by_cases hrank : rank < (innerPositions params).length
  · have hj := List.getElem?_eq_getElem hrank
    rw [testBit_bits hrank, testBit_bits hrank, Bool.eq_iff_iff, ← mem_subsetOf hj, h,
      mem_subsetOf hj]
  · have hpow := Nat.pow_le_pow_right (n := 2) (by decide) (Nat.le_of_not_lt hrank)
    rw [Nat.testBit_lt_two_pow (Nat.lt_of_lt_of_le (bits_lt hm) hpow),
      Nat.testBit_lt_two_pow (Nat.lt_of_lt_of_le (bits_lt hn) hpow)]

/-! ## All variants -/

theorem getElem?_all {params : List Descriptor} {i : Nat} (h : i < (all params).length) :
    (all params)[i]? = some (chosen params (subsetOf params i)) := by
  rw [length_all] at h
  rw [all_eq_map, List.getElem?_map, List.getElem?_range h, Option.map_some, variant_eq_chosen]

theorem count_eq {params : List Descriptor} (h : (inner params).card ≤ limit) :
    count params = 2 ^ (innerPositions params).length := by
  rw [card_inner] at h
  rw [count, if_pos h]
  rfl

theorem exists_subset {params : List Descriptor} (h : (inner params).card ≤ limit) :
    ∃ subset : Fin (all params).length ≃ (inner params).powerset,
      ∀ i, (subset i).val = subsetOf params i := by
  have hlength : (all params).length = 2 ^ (innerPositions params).length := by
    rw [length_all, count_eq h]
  let f : Fin (all params).length → (inner params).powerset := fun i =>
    ⟨subsetOf params i, Finset.mem_powerset.mpr (Finset.filter_subset _ _)⟩
  have hinjective : Function.Injective f := fun i j hij =>
    Fin.ext (subsetOf_injective (hlength ▸ i.isLt) (hlength ▸ j.isLt)
      (congrArg Subtype.val hij))
  have hcard : Fintype.card (Fin (all params).length) = Fintype.card (inner params).powerset := by
    rw [Fintype.card_fin, Fintype.card_coe, Finset.card_powerset, card_inner, hlength]
  exact ⟨.ofBijective f ((Fintype.bijective_iff_injective_and_card f).mpr ⟨hinjective, hcard⟩),
    fun _ => rfl⟩

/-- **The variants enumerate the subsets of the inner optional positions.** -/
theorem all_enumeration (params : List Descriptor) : Enumeration params where
  positions := mem_inner params
  number h := by rw [length_all, count_eq h, card_inner]
  subsets h := by
    obtain ⟨subset, hsubset⟩ := exists_subset h
    refine ⟨subset, fun i => ?_, fun i hi => by rw [hsubset, hi, subsetOf_zero]⟩
    have hget := getElem?_all i.isLt
    rw [List.getElem?_eq_getElem i.isLt] at hget
    rw [hsubset]
    exact Option.some.inj hget
  above h := by
    rw [card_inner] at h
    rw [all_eq_map, count, if_neg (Nat.not_le.mpr h), ← subsetOf_zero, ← variant_eq_chosen]
    rfl

end SchemaTypings.Variants
