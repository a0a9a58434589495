import SchemaTypings.Catalog.Fragment
import SchemaTypings.Proofs.Report.Outcomes

/-!
# The outer shape of a fragment

Reading a fragment is done in two stages. The first one looks at the outer shape alone: which parts are
there and whether each is a list, an object or a text. It does not look into the entries.

* `Json.IsFragment`: the values with the outer shape of a fragment.
* `RawFragment.ofJson_isOk_iff`: exactly those are read.
-/

namespace SchemaTypings

/-- The value has the shape that a part of a fragment needs. -/
def FragmentKey.Fits (value : Json) : FragmentKey → Prop
  | space | description => value = .null ∨ ∃ text, value = .text text
  | types | functions | events => ∃ entries, value = .array entries
  | properties => ∃ entries, value = .object entries
  | permissions => ∃ texts : List String, value = .array (texts.map .text)

/-- The value has the outer shape of a fragment: an object whose parts fit, or a list of two to seven
parts in their order. -/
def Json.IsFragment : Json → Prop
  | .object fields =>
    ∀ (key : FragmentKey) (value : Json), (key.spelling, value) ∈ fields → key.Fits value
  | .array items => 2 ≤ items.length ∧ items.length ≤ FragmentKey.all.length ∧
      ∀ part ∈ FragmentKey.all.zip items, part.1.Fits part.2
  | _ => False

theorem FragmentKey.ofString?_eq_some_iff {name : String} {key : FragmentKey} :
    ofString? name = some key ↔ key.spelling = name := by
  constructor
  · intro h
    unfold ofString? at h
    have hfound := List.find?_some h
    exact eq_of_beq hfound
  · rintro rfl
    cases key <;> decide

theorem FragmentKey.spelling_inj {key other : FragmentKey} (h : key.spelling = other.spelling) :
    key = other :=
  Option.some.inj ((ofString?_eq_some_iff.mpr rfl).symm.trans (ofString?_eq_some_iff.mpr h.symm))

theorem Json.readItems_eq_ok_iff {value : Json} {items : List Json} :
    value.readItems = .ok items ↔ value = .array items := by
  cases value <;> simp [readItems]

theorem Json.readFields_eq_ok_iff {value : Json} {fields : Fields Json} :
    value.readFields = .ok fields ↔ value = .object fields := by
  cases value <;> simp [readFields]

theorem Json.orNull_readText_isOk_iff {value : Json} :
    (∃ text?, value.orNull readText = .ok text?) ↔ value = .null ∨ ∃ text, value = .text text := by
  cases value <;> simp [orNull, readText, Functor.map, Except.map]

theorem Json.mapM_readText_isOk_iff {items : List Json} :
    (∃ texts, items.mapM readText = .ok texts) ↔ ∃ texts : List String, items = texts.map .text := by
  induction items with
  | nil => exact ⟨fun _ => ⟨[], rfl⟩, fun _ => ⟨[], rfl⟩⟩
  | cons item rest ih =>
    rw [List.mapM_cons]
    constructor
    · rintro ⟨_, h⟩
      obtain ⟨text, hitem, h⟩ := except_bind_eq_ok.mp h
      obtain ⟨others, hrest, -⟩ := except_bind_eq_ok.mp h
      obtain ⟨texts, rfl⟩ := ih.mp ⟨others, hrest⟩
      cases item <;> cases hitem
      exact ⟨text :: texts, rfl⟩
    · rintro ⟨texts, h⟩
      cases texts with
      | nil => cases h
      | cons text texts =>
        rw [List.map_cons, List.cons.injEq] at h
        obtain ⟨rfl, hrest⟩ := h
        obtain ⟨others, hothers⟩ := ih.mpr ⟨texts, hrest⟩
        exact ⟨_, except_bind_eq_ok.mpr ⟨text, rfl, except_bind_eq_ok.mpr ⟨others, hothers, rfl⟩⟩⟩

namespace RawFragment

/-- One part is read exactly if it fits. -/
theorem readPart_isOk_iff {raw : RawFragment} {key : FragmentKey} {value : Json} :
    (∃ read, raw.readPart key value = .ok read) ↔ key.Fits value := by
  cases key with
  | space => exact except_bind_isOk_iff.trans Json.orNull_readText_isOk_iff
  | description => exact except_bind_isOk_iff.trans Json.orNull_readText_isOk_iff
  | types => exact except_bind_isOk_iff.trans (exists_congr fun _ => Json.readItems_eq_ok_iff)
  | functions => exact except_bind_isOk_iff.trans (exists_congr fun _ => Json.readItems_eq_ok_iff)
  | events => exact except_bind_isOk_iff.trans (exists_congr fun _ => Json.readItems_eq_ok_iff)
  | properties => exact except_bind_isOk_iff.trans (exists_congr fun _ => Json.readFields_eq_ok_iff)
  | permissions =>
    constructor
    · rintro ⟨read, h⟩
      obtain ⟨items, hitems, h⟩ := except_bind_eq_ok.mp h
      obtain ⟨texts, rfl⟩ := Json.mapM_readText_isOk_iff.mp (except_bind_isOk_iff.mp ⟨read, h⟩)
      exact ⟨texts, Json.readItems_eq_ok_iff.mp hitems⟩
    · rintro ⟨texts, rfl⟩
      exact except_bind_isOk_iff.mpr (Json.mapM_readText_isOk_iff.mpr ⟨texts, rfl⟩)

/-- The object form: every known key is read, one after another. -/
theorem readFields_isOk_iff {raw : RawFragment} {fields : Fields Json} :
    (∃ read, raw.readFields fields = .ok read) ↔
      ∀ (key : FragmentKey) (value : Json), (key.spelling, value) ∈ fields → key.Fits value := by
  induction fields generalizing raw with
  | nil => exact ⟨fun _ _ _ h => absurd h List.not_mem_nil, fun _ => ⟨raw, rfl⟩⟩
  | cons field rest ih =>
    obtain ⟨name, value⟩ := field
    rw [readFields]
    cases hkey : FragmentKey.ofString? name with
    | none =>
      have hne : ∀ key : FragmentKey, key.spelling ≠ name := fun key h => by
        cases hkey.symm.trans (FragmentKey.ofString?_eq_some_iff.mpr h)
      simp [ih, hne]
    | some part =>
      obtain rfl := FragmentKey.ofString?_eq_some_iff.mp hkey
      constructor
      · rintro ⟨read, h⟩ key other hmem
        obtain ⟨next, hpart, h⟩ := except_bind_eq_ok.mp h
        rcases List.mem_cons.mp hmem with heq | hmem
        · obtain ⟨hspelling, rfl⟩ := Prod.mk.inj heq
          obtain rfl := FragmentKey.spelling_inj hspelling
          exact readPart_isOk_iff.mp ⟨next, hpart⟩
        · exact ih.mp ⟨read, h⟩ key other hmem
      · intro hfits
        obtain ⟨next, hpart⟩ := readPart_isOk_iff.mpr (hfits part value List.mem_cons_self)
        obtain ⟨read, hrest⟩ := ih.mpr fun key other h => hfits key other (List.mem_cons_of_mem _ h)
        exact ⟨read, except_bind_eq_ok.mpr ⟨next, hpart, hrest⟩⟩

/-- The list form: the parts in order; those that are left out are not required. -/
theorem readElements_isOk_iff {count : Nat} {raw : RawFragment} {keys : List FragmentKey}
    {items : List Json} :
    (∃ read, readElements count raw keys items = .ok read) ↔
      items.length ≤ keys.length ∧ (keys[items.length]?).all (!·.isRequired) = true ∧
        ∀ part ∈ keys.zip items, part.1.Fits part.2 := by
  induction items generalizing raw keys with
  | nil =>
    cases keys with
    | nil => simp [readElements]
    | cons key keys => cases h : key.isRequired <;> simp [readElements, h]
  | cons value rest ih =>
    cases keys with
    | nil => simp [readElements]
    | cons key keys =>
      simp only [List.length_cons, Nat.add_le_add_iff_right, List.getElem?_cons_succ,
        List.zip_cons_cons, List.forall_mem_cons]
      constructor
      · rintro ⟨read, h⟩
        obtain ⟨next, hpart, h⟩ := except_bind_eq_ok.mp h
        obtain ⟨hlength, hrequired, hrest⟩ := ih.mp ⟨read, h⟩
        exact ⟨hlength, hrequired, readPart_isOk_iff.mp ⟨next, hpart⟩, hrest⟩
      · rintro ⟨hlength, hrequired, hfits, hrest⟩
        obtain ⟨next, hpart⟩ := readPart_isOk_iff.mpr hfits
        obtain ⟨read, h⟩ := ih.mpr ⟨hlength, hrequired, hrest⟩
        exact ⟨read, except_bind_eq_ok.mpr ⟨next, hpart, h⟩⟩

theorem required_iff {count : Nat} (h : count ≤ FragmentKey.all.length) :
    (FragmentKey.all[count]?).all (!·.isRequired) = true ↔ 2 ≤ count := by
  have hall : ∀ n < 8, (FragmentKey.all[n]?).all (!·.isRequired) = true ↔ 2 ≤ n := by decide
  exact hall count (Nat.lt_succ_of_le h)

/-- **A value is read as a fragment exactly if it has the outer shape of one.** -/
theorem ofJson_isOk_iff {value : Json} :
    (∃ raw, ofJson value = .ok raw) ↔ value.IsFragment := by
  cases value with
  | object fields => exact readFields_isOk_iff
  | array items =>
    refine readElements_isOk_iff.trans ?_
    constructor
    · rintro ⟨hlength, hrequired, hfits⟩
      exact ⟨(required_iff hlength).mp hrequired, hlength, hfits⟩
    · rintro ⟨htwo, hlength, hfits⟩
      exact ⟨hlength, (required_iff hlength).mpr htwo, hfits⟩
  | _ => exact ⟨nofun, nofun⟩

end RawFragment

end SchemaTypings
