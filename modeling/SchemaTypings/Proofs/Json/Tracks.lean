import SchemaTypings.Proofs.Json.Trims
import SchemaTypings.Proofs.Report.Outcomes

/-!
# Reading a text with fewer blanks

A reader that answers for a text answers the same for the text with fewer blanks, and what it leaves
behind differs in blanks only. What it reads on the way has no slash outside of strings and no control
character in them.

* `Tracks`: what a reader does for a text, another one does for the text with fewer blanks.
* `Tracks.bind`, `Tracks.behind`, `Passes.follows`: how such readers are put together.
* `tracks_readWord`, `tracks_readNumber`: words and numbers.
-/

namespace SchemaTypings

theorem Cursor.rest_advance {cursor : Cursor} {c : Char} {rest : List Char}
    (h : cursor.rest = c :: rest) : cursor.advance.rest = rest := by
  unfold advance
  rw [h]

namespace Json

variable {α β : Type}

/-- Both texts are read on, from `c` and `c'` to `d` and `d'`, and from one place to another. -/
structure Passes (s t : Place) (c d c' d' : Cursor) : Prop where
  trims : Trims t d.rest d'.rest
  length_le : d'.rest.length ≤ c'.rest.length
  sound : Sound t d.rest → Sound s c.rest

/-- The answer for the text with fewer blanks: the same value, and a rest with fewer blanks. -/
def Follows (s t : Place) (c c' : Cursor) (a : α) (d : Cursor)
    (answer : Except SyntaxFault (α × Cursor)) : Prop :=
  ∃ d', answer = .ok (a, d') ∧ Passes s t c d c' d'

/-- What the first reader answers for a text, the second one answers for the text with fewer blanks, as
long as that is shorter than the bound. Both are called at one place and end at another. -/
def Tracks (s t : Place) (bound : Nat) (read read' : Reader α) : Prop :=
  ∀ ⦃c c' : Cursor⦄ ⦃a : α⦄ ⦃d : Cursor⦄, Trims s c.rest c'.rest → c'.rest.length < bound →
    read c = .ok (a, d) → Follows s t c c' a d (read' c')

/-- What a reader steps over at a place. -/
def takes (place : Place) (c : Char) : Bool :=
  allows place c && !(place == .outside && isBlank c)

/-! ## Putting readers together -/

section

variable {s t u : Place} {bound : Nat} {read read' : Reader α} {c c' d d' e e' : Cursor} {a : α}
  {x : Char} {rest : List Char}

theorem Passes.refl (h : Trims s c.rest c'.rest) : Passes s s c c c' c' :=
  ⟨h, Nat.le_refl _, id⟩

theorem Passes.trans (h : Passes s t c e c' e') (h' : Passes t u e d e' d') : Passes s u c d c' d' :=
  ⟨h'.trims, Nat.le_trans h'.length_le h.length_le, fun hd => h.sound (h'.sound hd)⟩

theorem Passes.follows {answer : Except SyntaxFault (α × Cursor)} (h : Passes s t c e c' e')
    (hf : Follows t u e e' a d answer) : Follows s u c c' a d answer := by
  obtain ⟨d', hread, hpasses⟩ := hf
  exact ⟨d', hread, h.trans hpasses⟩

theorem Trims.cons_of_takes (ht : Trims s c.rest c'.rest) (hc : c.rest = x :: rest)
    (hx : takes s x = true) : ∃ rest', c'.rest = x :: rest' ∧ Trims (s.after x) rest rest' := by
  rw [hc] at ht
  refine ht.cons_inv fun hplace => ?_
  subst hplace
  simpa using (Bool.and_eq_true_iff.mp hx).2

theorem Passes.advance {rest' : List Char} (hc : c.rest = x :: rest) (hc' : c'.rest = x :: rest')
    (hx : allows s x = true) (ht : Trims (s.after x) rest rest') :
    Passes s (s.after x) c c.advance c' c'.advance where
  trims := by rwa [Cursor.rest_advance hc, Cursor.rest_advance hc']
  length_le := by
    rw [Cursor.rest_advance hc', hc', List.length_cons]
    exact Nat.le_succ _
  sound := by
    rw [Cursor.rest_advance hc, hc]
    exact fun hrest => ⟨hx, hrest⟩

/-- Both step over the same character. -/
theorem Passes.step (ht : Trims s c.rest c'.rest) (hc : c.rest = x :: rest)
    (hx : takes s x = true) (hplace : s.after x = t) :
    ∃ rest', c'.rest = x :: rest' ∧ Passes s t c c.advance c' c'.advance := by
  obtain ⟨rest', hc', ht'⟩ := ht.cons_of_takes hc hx
  subst hplace
  exact ⟨rest', hc', .advance hc hc' (Bool.and_eq_true_iff.mp hx).1 ht'⟩

/-- Both step over the same character and read on behind it. -/
theorem Tracks.behind (h : Tracks t u bound read read') (ht : Trims s c.rest c'.rest)
    (hc : c.rest = x :: rest) (hx : takes s x = true) (hplace : s.after x = t)
    (hb : c'.rest.length ≤ bound) (hread : read c.advance = .ok (a, d)) :
    ∃ rest', c'.rest = x :: rest' ∧ Follows s u c c' a d (read' c'.advance) := by
  obtain ⟨rest', hc', hpasses⟩ := Passes.step ht hc hx hplace
  have hlength : c'.advance.rest.length < bound := by
    rw [Cursor.rest_advance hc']
    rwa [hc', List.length_cons] at hb
  exact ⟨rest', hc', hpasses.follows (h hpasses.trims hlength hread)⟩

theorem tracks_pure (s : Place) (a : α) (bound : Nat) :
    Tracks s s bound (fun c => .ok (a, c)) (fun c => .ok (a, c)) := by
  intro c c' b d ht hb h
  cases h
  exact ⟨c', rfl, .refl ht⟩

theorem Tracks.bind {first first' : Reader β} {next next' : β → Reader α}
    (h : Tracks s t bound first first') (hn : ∀ b, Tracks t u bound (next b) (next' b)) :
    Tracks s u bound (fun c => do let (b, e) ← first c; next b e)
      (fun c => do let (b, e) ← first' c; next' b e) := by
  intro c c' a d ht hb hread
  obtain ⟨⟨b, e⟩, hfirst, hnext⟩ := except_bind_eq_ok.mp hread
  obtain ⟨e', hfirst', hpasses⟩ := h ht hb hfirst
  obtain ⟨d', hnext', hpasses'⟩ :=
    hn b hpasses.trims (Nat.lt_of_le_of_lt hpasses.length_le hb) hnext
  exact ⟨d', except_bind_eq_ok.mpr ⟨(b, e'), hfirst', hnext'⟩, hpasses.trans hpasses'⟩

theorem Tracks.map (h : Tracks s t bound read read') (f : α → β) :
    Tracks s t bound (fun c => do let (a, e) ← read c; .ok (f a, e))
      (fun c => do let (a, e) ← read' c; .ok (f a, e)) :=
  h.bind fun a => tracks_pure t (f a) bound

theorem Tracks.of_le {bound' : Nat} (h : Tracks s t bound read read') (hle : bound' ≤ bound) :
    Tracks s t bound' read read' :=
  fun _ _ _ _ ht hb hread => h ht (Nat.lt_of_lt_of_le hb hle) hread

/-- A run of characters that are neither blanks nor quotes nor slashes is the same in both texts. -/
theorem Passes.skipWhile_of_run {p : Char → Bool} (hp : ∀ c, isBlank c = true → p c = false)
    (hquote : p '"' = false) (hslash : p '/' = false) (h : Trims .outside c.rest c'.rest) :
    Passes .outside .outside c (c.skipWhile p) c' (c'.skipWhile p) where
  trims := (h.run hp hquote).2
  length_le := (List.dropWhile_suffix p).length_le
  sound := Sound.of_dropWhile hquote hslash

/-- Blanks in front make no difference. -/
theorem Passes.skip (h : Trims .outside c.rest c'.rest) :
    Passes .outside .outside c (c.skipWhile isBlank) c' (c'.skipWhile isBlank) where
  trims := h.dropWhile_isBlank
  length_le := (List.dropWhile_suffix isBlank).length_le
  sound := Sound.of_dropWhile rfl rfl

end

theorem faultHere_ne_ok {c : Cursor} {cause : SyntaxCause} {a : α} :
    c.faultHere cause ≠ .ok a := nofun

theorem faultNext_ne_ok {c : Cursor} {cause : SyntaxCause} {a : α} :
    c.faultNext cause ≠ .ok a := by
  unfold Cursor.faultNext
  split <;> exact nofun

/-! ## Words -/

/-- What a reader of words steps over: no quote either. -/
def isWordLetter (c : Char) : Bool := takes .outside c && c ≠ '"'

theorem tracks_readWord (letters : List Char) (hl : letters.all isWordLetter = true) (bound : Nat) :
    Tracks .outside .outside bound (readWord letters) (readWord letters) := by
  induction letters with
  | nil => exact tracks_pure .outside () bound
  | cons letter letters ih =>
    rw [List.all_cons, isWordLetter, Bool.and_eq_true, Bool.and_eq_true, decide_eq_true_eq] at hl
    obtain ⟨⟨hletter, hquote⟩, hrest⟩ := hl
    intro c c' a d ht hb h
    rw [readWord] at h
    cases hc : c.rest with
    | nil =>
      rw [hc] at h
      exact absurd h faultHere_ne_ok
    | cons x rest =>
      simp only [hc] at h
      split at h
      next hx =>
        subst hx
        obtain ⟨rest', hc', hfollows⟩ :=
          (ih hrest).behind ht hc hletter (Place.after_outside hquote) (Nat.le_of_lt hb) h
        rw [readWord]
        simp only [hc', if_pos]
        exact hfollows
      next => exact absurd h faultNext_ne_ok

/-! ## Numbers -/

theorem isDigit_of_isBlank {c : Char} (h : isBlank c = true) : c.isDigit = false := by
  simp only [isBlank, Bool.or_eq_true, decide_eq_true_eq] at h
  rcases h with ((rfl | rfl) | rfl) | rfl <;> decide

theorem isBlank_of_isDigit {c : Char} (h : c.isDigit = true) : isBlank c = false := by
  cases hc : isBlank c with
  | false => rfl
  | true => exact absurd ((isDigit_of_isBlank hc).symm.trans h) nofun

/-- The sign of an exponent, if there is one. -/
def readSign (cursor : Cursor) : Bool × Cursor :=
  match cursor.rest with
  | '+' :: _ => (false, cursor.advance)
  | '-' :: _ => (true, cursor.advance)
  | _ => (false, cursor)

/-- An exponent behind its sign. -/
def readPower (negative : Bool) (numeral : Decimal) (down : Bool) : Reader JsonNumber :=
  fun cursor =>
    match cursor.rest with
    | [] => cursor.faultHere .endInValue
    | c :: _ =>
      if !c.isDigit then cursor.faultNext .invalidNumber
      else
        let (exponent, after) := readDigits cursor
        match excessiveExponent? exponent with
        | some lead =>
          if down || numeral.digits = 0 then .ok (.binary (.zero negative), after)
          else .error ⟨.numberOutOfRange, cursor.position.atEnd lead⟩
        | none =>
          let power : Int := if down then -(digitsValue exponent : Int) else digitsValue exponent
          match Binary64.bestEffort? negative ⟨numeral.digits, numeral.exponent + power⟩ with
          | some value => .ok (.binary value, after)
          | none => after.faultHere .numberOutOfRange

theorem readExponent_eq (negative : Bool) (numeral : Decimal) (cursor : Cursor) :
    readExponent negative numeral cursor =
      readPower negative numeral (readSign cursor).1 (readSign cursor).2 := rfl

/-- The number that an exponent makes, if it is in range. -/
def powerValue? (negative : Bool) (numeral : Decimal) (down : Bool) (exponent : List Char) :
    Option JsonNumber :=
  match excessiveExponent? exponent with
  | some _ => if down || numeral.digits = 0 then some (.binary (.zero negative)) else none
  | none =>
    let power : Int := if down then -(digitsValue exponent : Int) else digitsValue exponent
    (Binary64.bestEffort? negative ⟨numeral.digits, numeral.exponent + power⟩).map .binary

theorem readPower_eq_ok_iff {negative : Bool} {numeral : Decimal} {down : Bool}
    {c d : Cursor} {a : JsonNumber} {x : Char} {rest : List Char} (hc : c.rest = x :: rest) :
    readPower negative numeral down c = .ok (a, d) ↔
      x.isDigit = true ∧ powerValue? negative numeral down (readDigits c).1 = some a ∧
        (readDigits c).2 = d := by
  unfold readPower powerValue?
  simp only [hc]
  cases hx : x.isDigit with
  | false => simp [Cursor.faultNext, hc]
  | true =>
    simp only [Bool.not_true, Bool.false_eq_true, if_false, true_and]
    cases excessiveExponent? (readDigits c).1 with
    | some lead =>
      dsimp only
      split <;> simp
    | none =>
      dsimp only
      split <;> rename_i hvalue
      · simp [hvalue]
      · simp [hvalue, Cursor.faultHere]

/-- A run of digits is the same in both texts. -/
theorem passes_readDigits {c c' : Cursor} (h : Trims .outside c.rest c'.rest) :
    (readDigits c').1 = (readDigits c).1 ∧
      Passes .outside .outside c (readDigits c).2 c' (readDigits c').2 :=
  ⟨(h.run (fun _ => isDigit_of_isBlank) rfl).1.symm,
    .skipWhile_of_run (fun _ => isDigit_of_isBlank) rfl rfl h⟩

section

variable (negative : Bool) (numeral : Decimal) (whole : List Char) (bound : Nat)

theorem tracks_readPower (down : Bool) :
    Tracks .outside .outside bound (readPower negative numeral down)
      (readPower negative numeral down) := by
  intro c c' a d ht hb h
  cases hc : c.rest with
  | nil =>
    rw [readPower, hc] at h
    exact absurd h faultHere_ne_ok
  | cons x rest =>
    obtain ⟨hx, hvalue, rfl⟩ := (readPower_eq_ok_iff hc).mp h
    obtain ⟨hdigits, hpasses⟩ := passes_readDigits ht
    rw [hc] at ht
    obtain ⟨rest', hc', -⟩ := ht.cons_inv fun _ => isBlank_of_isDigit hx
    rw [← hdigits] at hvalue
    rw [(readPower_eq_ok_iff hc').mpr ⟨hx, hvalue, rfl⟩]
    exact ⟨_, rfl, hpasses⟩

/-- A gap does not begin with a character that is no blank. -/
theorem IsGap.ne {text : List Char} (h : IsGap text) {x : Char} (hx : isBlank x = false) :
    ∀ c ∈ text.head?, c ≠ x := by
  rintro c hc rfl
  exact absurd ((h c hc).symm.trans hx) nofun

theorem head_ne {text rest : List Char} {x y : Char} (h : text = x :: rest) (hne : x ≠ y) :
    ∀ c ∈ text.head?, c ≠ y := by
  subst h
  rintro _ ⟨⟩
  exact hne

theorem readSign_of_ne {c : Cursor} (hplus : ∀ x ∈ c.rest.head?, x ≠ '+')
    (hminus : ∀ x ∈ c.rest.head?, x ≠ '-') : readSign c = (false, c) := by
  unfold readSign
  cases hc : c.rest with
  | nil => rfl
  | cons x rest =>
    rw [hc] at hplus hminus
    simp [hplus x rfl, hminus x rfl]

theorem passes_readSign {c c' : Cursor} (h : Trims .outside c.rest c'.rest) :
    (readSign c').1 = (readSign c).1 ∧
      Passes .outside .outside c (readSign c).2 c' (readSign c').2 := by
  rcases h.heads with ⟨hgap, hgap'⟩ | ⟨x, rest, rest', hc, hc', ht⟩
  · rw [readSign_of_ne (hgap.ne rfl) (hgap.ne rfl), readSign_of_ne (hgap'.ne rfl) (hgap'.ne rfl)]
    exact ⟨rfl, .refl h⟩
  · by_cases hplus : x = '+'
    · subst hplus
      simp only [readSign, hc, hc']
      exact ⟨trivial, .advance hc hc' rfl ht⟩
    · by_cases hminus : x = '-'
      · subst hminus
        simp only [readSign, hc, hc']
        exact ⟨trivial, .advance hc hc' rfl ht⟩
      · rw [readSign_of_ne (head_ne hc hplus) (head_ne hc hminus),
          readSign_of_ne (head_ne hc' hplus) (head_ne hc' hminus)]
        exact ⟨rfl, .refl h⟩

theorem tracks_readExponent :
    Tracks .outside .outside bound (readExponent negative numeral)
      (readExponent negative numeral) := by
  intro c c' a d ht hb h
  obtain ⟨hsign, hpasses⟩ := passes_readSign ht
  rw [readExponent_eq] at h ⊢
  rw [hsign]
  exact hpasses.follows (tracks_readPower negative numeral bound _ hpasses.trims
    (Nat.lt_of_le_of_lt hpasses.length_le hb) h)

theorem readScale_of_ne {plain : Reader JsonNumber} {c : Cursor}
    (hlower : ∀ x ∈ c.rest.head?, x ≠ 'e') (hupper : ∀ x ∈ c.rest.head?, x ≠ 'E') :
    readScale negative numeral plain c = plain c := by
  unfold readScale
  cases hc : c.rest with
  | nil => rfl
  | cons x rest =>
    rw [hc] at hlower hupper
    simp [hlower x rfl, hupper x rfl]

theorem tracks_readScale {plain : Reader JsonNumber}
    (hplain : Tracks .outside .outside bound plain plain) :
    Tracks .outside .outside bound (readScale negative numeral plain)
      (readScale negative numeral plain) := by
  have hexponent := tracks_readExponent negative numeral bound
  intro c c' a d ht hb h
  rcases ht.heads with ⟨hgap, hgap'⟩ | ⟨x, rest, rest', hc, hc', -⟩
  · rw [readScale_of_ne _ _ (hgap.ne rfl) (hgap.ne rfl)] at h
    rw [readScale_of_ne _ _ (hgap'.ne rfl) (hgap'.ne rfl)]
    exact hplain ht hb h
  · by_cases hlower : x = 'e'
    · subst hlower
      simp only [readScale, hc, hc'] at h ⊢
      obtain ⟨_, -, hfollows⟩ := hexponent.behind ht hc rfl rfl (Nat.le_of_lt hb) h
      exact hfollows
    · by_cases hupper : x = 'E'
      · subst hupper
        simp only [readScale, hc, hc'] at h ⊢
        obtain ⟨_, -, hfollows⟩ := hexponent.behind ht hc rfl rfl (Nat.le_of_lt hb) h
        exact hfollows
      · rw [readScale_of_ne _ _ (head_ne hc hlower) (head_ne hc hupper)] at h
        rw [readScale_of_ne _ _ (head_ne hc' hlower) (head_ne hc' hupper)]
        exact hplain ht hb h

theorem tracks_plainBinary :
    Tracks .outside .outside bound (plainBinary negative numeral) (plainBinary negative numeral) := by
  intro c c' a d ht hb h
  unfold plainBinary at h ⊢
  cases hvalue : Binary64.bestEffort? negative numeral with
  | none =>
    rw [hvalue] at h
    cases h
  | some value =>
    rw [hvalue] at h
    exact tracks_pure .outside _ bound ht hb h

theorem tracks_plainInteger :
    Tracks .outside .outside bound (plainInteger negative numeral)
      (plainInteger negative numeral) := by
  have hbinary := tracks_plainBinary negative numeral bound
  intro c c' a d ht hb h
  unfold plainInteger at h ⊢
  split at h <;> rename_i hscale
  · rw [if_pos hscale]
    exact hbinary ht hb h
  rw [if_neg hscale]
  split at h <;> rename_i hnegative
  · rw [if_pos hnegative]
    split at h <;> rename_i hfits
    · rw [if_pos hfits]
      exact tracks_pure .outside _ bound ht hb h
    · rw [if_neg hfits]
      exact hbinary ht hb h
  · rw [if_neg hnegative]
    exact tracks_pure .outside _ bound ht hb h

/-- The number behind its decimal point. -/
def readDecimals (negative : Bool) (whole : List Char) : Reader JsonNumber := fun cursor =>
  let (fraction, after) := readDigits cursor
  if fraction.isEmpty then
    match after.rest with
    | [] => after.faultNext .endInValue
    | _ => after.faultNext .invalidNumber
  else
    let numeral := withFraction (wholePart whole) fraction
    readScale negative numeral (plainBinary negative numeral) after

theorem readFraction_dot {c : Cursor} {rest : List Char} (hc : c.rest = '.' :: rest) :
    readFraction negative whole c = readDecimals negative whole c.advance := by
  unfold readFraction
  simp only [hc]
  rfl

theorem readFraction_of_ne {c : Cursor} (hdot : ∀ x ∈ c.rest.head?, x ≠ '.') :
    readFraction negative whole c =
      readScale negative (wholePart whole) (plainInteger negative (wholePart whole)) c := by
  unfold readFraction
  cases hc : c.rest with
  | nil => rfl
  | cons x rest =>
    rw [hc] at hdot
    simp [hdot x rfl]

theorem tracks_readDecimals :
    Tracks .outside .outside bound (readDecimals negative whole) (readDecimals negative whole) := by
  intro c c' a d ht hb h
  obtain ⟨hdigits, hpasses⟩ := passes_readDigits ht
  unfold readDecimals at h ⊢
  dsimp only at h ⊢
  rw [hdigits]
  split at h
  · split at h <;> exact absurd h faultNext_ne_ok
  next hsome =>
    rw [if_neg hsome]
    exact hpasses.follows (tracks_readScale _ _ _ (tracks_plainBinary _ _ bound) hpasses.trims
      (Nat.lt_of_le_of_lt hpasses.length_le hb) h)

theorem tracks_readFraction :
    Tracks .outside .outside bound (readFraction negative whole) (readFraction negative whole) := by
  have hscale := tracks_readScale negative (wholePart whole) bound
    (tracks_plainInteger negative (wholePart whole) bound)
  intro c c' a d ht hb h
  rcases ht.heads with ⟨hgap, hgap'⟩ | ⟨x, rest, rest', hc, hc', -⟩
  · rw [readFraction_of_ne _ _ (hgap.ne rfl)] at h
    rw [readFraction_of_ne _ _ (hgap'.ne rfl)]
    exact hscale ht hb h
  · by_cases hdot : x = '.'
    · subst hdot
      rw [readFraction_dot _ _ hc] at h
      rw [readFraction_dot _ _ hc']
      obtain ⟨_, -, hfollows⟩ :=
        (tracks_readDecimals negative whole bound).behind ht hc rfl rfl (Nat.le_of_lt hb) h
      exact hfollows
    · rw [readFraction_of_ne _ _ (head_ne hc hdot)] at h
      rw [readFraction_of_ne _ _ (head_ne hc' hdot)]
      exact hscale ht hb h

theorem readNumber_zero {c : Cursor} {rest : List Char} (hc : c.rest = '0' :: rest) :
    readNumber negative c =
      if rest.head?.any Char.isDigit then c.advance.faultNext .invalidNumber
      else readFraction negative ['0'] c.advance := by
  unfold readNumber
  simp only [hc]
  cases rest <;> rfl

theorem readNumber_of_ne {c : Cursor} {x : Char} {rest : List Char} (hc : c.rest = x :: rest)
    (hx : x ≠ '0') : readNumber negative c =
      if x.isDigit then readFraction negative (readDigits c).1 (readDigits c).2
      else c.faultNext .invalidNumber := by
  unfold readNumber
  rw [hc]
  split
  next heq => cases heq
  next heq => exact absurd (List.cons.inj heq).1 hx
  next heq =>
    cases heq
    rfl

theorem tracks_readNumber :
    Tracks .outside .outside bound (readNumber negative) (readNumber negative) := by
  intro c c' a d ht hb h
  cases hc : c.rest with
  | nil =>
    rw [readNumber, hc] at h
    exact absurd h faultHere_ne_ok
  | cons x rest =>
    by_cases hx : x = '0'
    · subst hx
      rw [readNumber_zero _ hc] at h
      split at h
      · exact absurd h faultNext_ne_ok
      next hdigit =>
        obtain ⟨rest', hc', hfollows⟩ := (tracks_readFraction negative ['0'] bound).behind ht hc rfl
          rfl (Nat.le_of_lt hb) h
        obtain ⟨_, hsame, ht'⟩ := ht.cons_of_takes hc rfl
        cases hc'.symm.trans hsame
        have hdigit' : ¬rest'.head?.any Char.isDigit = true := by
          rcases ht'.heads with ⟨-, hgap'⟩ | ⟨y, more, more', rfl, rfl, -⟩
          · cases rest' with
            | nil => exact nofun
            | cons y more' => simp [isDigit_of_isBlank (hgap' y rfl)]
          · exact hdigit
        rw [readNumber_zero _ hc', if_neg hdigit']
        exact hfollows
    · rw [readNumber_of_ne _ hc hx] at h
      split at h
      next hdigit =>
        obtain ⟨hdigits, hpasses⟩ := passes_readDigits ht
        rw [hc] at ht
        obtain ⟨rest', hc', -⟩ := ht.cons_inv fun _ => isBlank_of_isDigit hdigit
        rw [readNumber_of_ne _ hc' hx, if_pos hdigit, hdigits]
        exact hpasses.follows (tracks_readFraction negative _ bound hpasses.trims
          (Nat.lt_of_le_of_lt hpasses.length_le hb) h)
      · exact absurd h faultNext_ne_ok

end

end Json

end SchemaTypings
