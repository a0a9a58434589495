import SchemaTypings.Proofs.Json.Laws

/-!
# Texts with fewer blanks

Taking lines apart and joining them again loses line ends: carriage returns, and what ends the last
line. `Trims` says that a text differs from another in nothing else than in blanks that are lost outside
of strings. A blank that is lost has another one or the end of the text behind it, so nothing that stood
apart comes together.

* `Trims`: what blanks and runs of other characters make of two such texts.
* `Sound`: texts with slashes and control characters at no other places than JSON has them.
-/

namespace SchemaTypings.Json

/-! ## Fewer blanks -/

/-- The second text, read from a place on, is the first one without some of the blanks that stand outside
of strings and have a gap behind them. -/
inductive Trims : Place → List Char → List Char → Prop
  | nil {place : Place} : Trims place [] []
  | keep {place : Place} (c : Char) {text less : List Char} (h : Trims (place.after c) text less) :
      Trims place (c :: text) (c :: less)
  | drop {c : Char} {text less : List Char} (hc : isBlank c = true) (hgap : IsGap text)
      (h : Trims .outside text less) : Trims .outside (c :: text) less

theorem after_of_isBlank {c : Char} (h : isBlank c = true) : Place.outside.after c = .outside := by
  refine Place.after_outside ?_
  rintro rfl
  cases h

namespace Trims

variable {place : Place} {text less : List Char}

theorem refl (place : Place) (text : List Char) : Trims place text text := by
  induction text generalizing place with
  | nil => exact nil
  | cons c text ih => exact (ih (place.after c)).keep c

theorem append_left {lead : List Char} (h : Trims (place.atEnd lead) text less) :
    Trims place (lead ++ text) (lead ++ less) := by
  induction lead generalizing place with
  | nil => exact h
  | cons c lead ih => exact (ih h).keep c

theorem isGap (h : Trims place text less) (hgap : IsGap text) : IsGap less := by
  induction h with
  | nil => exact hgap
  | keep c h ih => exact .cons (hgap c rfl) _
  | drop hc hnext h ih => exact ih hnext

theorem eq_nil (h : Trims place [] less) : less = [] := by
  cases h
  rfl

/-- A text of which nothing is left is a gap. -/
theorem isGap_of_nil (h : Trims place text []) : IsGap text := by
  cases h with
  | nil => exact .nil
  | drop hc hgap h => exact .cons hc _

/-- A character stays if it is no blank, and so does every one in a string. -/
theorem cons_inv {c : Char} (h : Trims place (c :: text) less)
    (hc : place = .outside → isBlank c = false) :
    ∃ rest, less = c :: rest ∧ Trims (place.after c) text rest := by
  cases h with
  | keep _ h => exact ⟨_, rfl, h⟩
  | drop hblank hgap h => exact nomatch (hc rfl).symm.trans hblank

/-- Both texts begin with a gap, or both with the same character. -/
theorem heads (h : Trims place text less) : (IsGap text ∧ IsGap less) ∨
    ∃ c rest rest', text = c :: rest ∧ less = c :: rest' ∧ Trims (place.after c) rest rest' := by
  cases h with
  | nil => exact .inl ⟨.nil, .nil⟩
  | keep c h => exact .inr ⟨c, _, _, rfl, rfl, h⟩
  | drop hc hgap h => exact .inl ⟨.cons hc _, h.isGap hgap⟩

/-- Behind the blanks of both the same stands. -/
theorem dropWhile_isBlank (h : Trims .outside text less) :
    Trims .outside (text.dropWhile isBlank) (less.dropWhile isBlank) := by
  generalize hplace : Place.outside = place at h
  induction h with
  | nil => exact nil
  | keep c h ih =>
    subst hplace
    rw [List.dropWhile_cons, List.dropWhile_cons]
    split
    next hc =>
      have hafter := after_of_isBlank hc
      rw [← hafter]
      exact ih hafter.symm
    next => exact h.keep c
  | drop hc hgap h ih =>
    rw [List.dropWhile_cons, if_pos hc]
    exact ih rfl

end Trims

/-- A run of characters that are no blanks ends at a gap. -/
theorem IsGap.takeWhile_eq_nil {p : Char → Bool} (hp : ∀ c, isBlank c = true → p c = false)
    {text : List Char} (h : IsGap text) : text.takeWhile p = [] ∧ text.dropWhile p = text := by
  cases text with
  | nil => exact ⟨rfl, rfl⟩
  | cons c text => simp [hp c (h c rfl)]

/-- Runs of characters that are neither blanks nor quotes are the same in both. -/
theorem Trims.run {p : Char → Bool} (hp : ∀ c, isBlank c = true → p c = false)
    (hquote : p '"' = false) {text less : List Char} (h : Trims .outside text less) :
    text.takeWhile p = less.takeWhile p ∧ Trims .outside (text.dropWhile p) (less.dropWhile p) := by
  generalize hplace : Place.outside = place at h
  induction h with
  | nil => exact ⟨rfl, nil⟩
  | keep c h ih =>
    subst hplace
    cases hc : p c with
    | true =>
      have hafter : Place.outside.after c = .outside := Place.after_outside fun hc' => by
        rw [hc', hquote] at hc
        cases hc
      have hrest := ih hafter.symm
      rw [hafter] at hrest
      simpa [hc] using hrest
    | false => simpa [hc] using h.keep c
  | @drop c text less hc hgap h ih =>
    have hno : p c = false := hp c hc
    obtain ⟨htake, hdrop⟩ := (h.isGap hgap).takeWhile_eq_nil hp
    rw [htake, hdrop]
    simpa [hno] using Trims.drop hc hgap h

/-! ## Slashes and control characters -/

/-- What may stand at a place: no slash outside of strings, and no control character in them. -/
def allows : Place → Char → Bool
  | .outside, c => c ≠ '/'
  | _, c => 32 ≤ c.toNat

theorem eq_outside_of_allows {place : Place} {c : Char} (h : allows place c = true)
    (hc : c.toNat < 32) : place = .outside := by
  cases place with
  | outside => rfl
  | inString | escaped => exact absurd (of_decide_eq_true h) (Nat.not_le.mpr hc)

/-- No character of the text, read from a place on, stands where it may not. -/
def Sound : Place → List Char → Prop
  | _, [] => True
  | place, c :: rest => allows place c = true ∧ Sound (place.after c) rest

theorem sound_append {place : Place} {lead text : List Char} :
    Sound place (lead ++ text) ↔ Sound place lead ∧ Sound (place.atEnd lead) text := by
  induction lead generalizing place with
  | nil => exact ⟨fun h => ⟨trivial, h⟩, And.right⟩
  | cons c lead ih =>
    rw [List.cons_append, Sound, Sound, ih, and_assoc]
    rfl

theorem sound_iff {place : Place} {text : List Char} : Sound place text ↔
    ∀ lead c rest, text = lead ++ c :: rest → allows (place.atEnd lead) c = true := by
  constructor
  · rintro h lead c rest rfl
    exact (sound_append.mp h).2.1
  · intro h
    induction text generalizing place with
    | nil => trivial
    | cons c text ih =>
      refine ⟨h [] c text rfl, ih fun lead d rest heq => ?_⟩
      subst heq
      exact h (c :: lead) d rest rfl

/-- What stands outside of strings in front, without quotes and slashes, makes no difference. -/
theorem Sound.of_dropWhile {p : Char → Bool} (hquote : p '"' = false) (hslash : p '/' = false)
    {text : List Char} (h : Sound .outside (text.dropWhile p)) : Sound .outside text := by
  induction text with
  | nil => exact h
  | cons c text ih =>
    rw [List.dropWhile_cons] at h
    split at h
    next hc =>
      have hne {d : Char} (hd : p d = false) : c ≠ d := by
        rintro rfl
        exact nomatch hc.symm.trans hd
      refine ⟨decide_eq_true (hne hslash), ?_⟩
      rw [Place.after_outside (hne hquote)]
      exact ih h
    next => exact h

end SchemaTypings.Json
