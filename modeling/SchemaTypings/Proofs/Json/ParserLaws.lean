import SchemaTypings.Proofs.Json.Tracks

/-!
# The parser is lawful

A text that the parser reads gives the same value with fewer blanks, and it has slashes and control
characters at no other places than JSON has them. So the parser is a lawful reader.

* `tracks_readString`, `tracks_readValue`: strings and values.
* `parse_trims`: whole texts.
* `lawful_reader`: the laws.
-/

namespace SchemaTypings.Json

/-! ## Strings -/

theorem le_of_hexValue? {c : Char} {value : Nat} (h : hexValue? c = some value) : 48 ≤ c.toNat := by
  unfold hexValue? at h
  split at h
  next hdigit =>
    simp only [Char.isDigit, Bool.and_eq_true, decide_eq_true_eq] at hdigit
    exact hdigit.1
  split at h
  next hlower =>
    simp only [Bool.and_eq_true, decide_eq_true_eq] at hlower
    have hlow : 97 ≤ c.toNat := hlower.1
    omega
  split at h
  next hupper =>
    simp only [Bool.and_eq_true, decide_eq_true_eq] at hupper
    have hlow : 65 ≤ c.toNat := hupper.1
    omega
  next => cases h

theorem inString_of_hexValue? {c : Char} {value : Nat} (h : hexValue? c = some value) :
    allows .inString c = true ∧ Place.inString.after c = .inString := by
  refine ⟨decide_eq_true (Nat.le_trans (by decide) (le_of_hexValue? h)), Place.after_inString ?_ ?_⟩
  · rintro rfl
    cases h
  · rintro rfl
    cases h

theorem readHexUnit_eq_ok {c d : Cursor} {a : Nat} (h : readHexUnit c = .ok (a, d)) :
    ∃ w x y z i j k l, c.rest = w :: x :: y :: z :: d.rest ∧ hexValue? w = some i ∧
      hexValue? x = some j ∧ hexValue? y = some k ∧ hexValue? z = some l ∧
        a = ((i * 16 + j) * 16 + k) * 16 + l := by
  unfold readHexUnit at h
  dsimp only at h
  split at h
  next w x y z rest hc =>
    split at h
    next i j k l hi hj hk hl =>
      cases h
      exact ⟨w, x, y, z, i, j, k, l, hc, hi, hj, hk, hl, rfl⟩
    · split at h <;> cases h
  · split at h <;> cases h

theorem readHexUnit_of_rest {c : Cursor} {w x y z : Char} {i j k l : Nat} {rest : List Char}
    (hc : c.rest = w :: x :: y :: z :: rest) (hi : hexValue? w = some i) (hj : hexValue? x = some j)
    (hk : hexValue? y = some k) (hl : hexValue? z = some l) :
    ∃ d, readHexUnit c = .ok (((i * 16 + j) * 16 + k) * 16 + l, d) ∧ d.rest = rest := by
  unfold readHexUnit
  simp only [hc, hi, hj, hk, hl]
  exact ⟨_, rfl, rfl⟩

/-- A hexadecimal digit of an escape stays. -/
theorem Trims.hexDigit {c : Char} {value : Nat} (hc : hexValue? c = some value)
    {text less : List Char} (h : Trims .inString (c :: text) less) :
    ∃ rest, less = c :: rest ∧ Trims .inString text rest ∧
      (Sound .inString text → Sound .inString (c :: text)) := by
  obtain ⟨hallows, hplace⟩ := inString_of_hexValue? hc
  obtain ⟨rest, hless, hrest⟩ := h.cons_inv nofun
  rw [hplace] at hrest
  refine ⟨rest, hless, hrest, fun hsound => ⟨hallows, ?_⟩⟩
  rwa [hplace]

theorem tracks_readHexUnit (bound : Nat) :
    Tracks .inString .inString bound readHexUnit readHexUnit := by
  intro c c' a d ht hb h
  obtain ⟨w, x, y, z, i, j, k, l, hc, hi, hj, hk, hl, rfl⟩ := readHexUnit_eq_ok h
  rw [hc] at ht
  obtain ⟨_, hc', htx, hsw⟩ := ht.hexDigit hi
  obtain ⟨_, rfl, hty, hsx⟩ := htx.hexDigit hj
  obtain ⟨_, rfl, htz, hsy⟩ := hty.hexDigit hk
  obtain ⟨rest', rfl, htd, hsz⟩ := htz.hexDigit hl
  obtain ⟨d', hread, rfl⟩ := readHexUnit_of_rest hc' hi hj hk hl
  refine ⟨d', hread, htd, ?_, fun hd => ?_⟩
  · rw [hc']
    simp only [List.length_cons]
    omega
  · rw [hc]
    exact hsw (hsx (hsy (hsz hd)))

theorem tracks_readSurrogateMark {s t : Place} {mark : Char} (hmark : takes s mark = true)
    (hplace : s.after mark = t) (bound : Nat) :
    Tracks s t bound (readSurrogateMark mark) (readSurrogateMark mark) := by
  intro c c' a d ht hb h
  unfold readSurrogateMark at h ⊢
  cases hc : c.rest with
  | nil =>
    rw [hc] at h
    exact absurd h faultHere_ne_ok
  | cons x rest =>
    simp only [hc] at h
    split at h
    next hx =>
      subst hx
      obtain ⟨rest', hc', hfollows⟩ :=
        (tracks_pure t () bound).behind ht hc hmark hplace (Nat.le_of_lt hb) h
      simp only [hc', if_pos]
      exact hfollows
    · exact absurd h faultNext_ne_ok

/-- The character of a pair of units. -/
def pairUnits (high low : Nat) : Reader Char := fun cursor =>
  if 0xDC00 ≤ low && low ≤ 0xDFFF then
    .ok (Char.ofNat (0x10000 + (high - 0xD800) * 0x400 + (low - 0xDC00)), cursor)
  else cursor.faultHere .loneSurrogate

/-- The character that begins with a unit: one half of a pair needs the other half. -/
def readUnit (high : Nat) : Reader Char := fun cursor =>
  if 0xDC00 ≤ high && high ≤ 0xDFFF then cursor.faultHere .loneSurrogate
  else if 0xD800 ≤ high && high ≤ 0xDBFF then do
    let (_, cursor) ← readSurrogateMark '\\' cursor
    let (_, cursor) ← readSurrogateMark 'u' cursor
    let (low, cursor) ← readHexUnit cursor
    pairUnits high low cursor
  else .ok (Char.ofNat high, cursor)

theorem readUnicodeEscape_eq :
    readUnicodeEscape = (fun cursor => do
      let (high, cursor) ← readHexUnit cursor
      readUnit high cursor) := rfl

theorem tracks_pairUnits (high low bound : Nat) :
    Tracks .inString .inString bound (pairUnits high low) (pairUnits high low) := by
  intro c c' a d ht hb h
  unfold pairUnits at h ⊢
  split at h
  next hlow =>
    rw [if_pos hlow]
    exact tracks_pure .inString _ bound ht hb h
  · exact absurd h faultHere_ne_ok

theorem tracks_readUnit (high bound : Nat) :
    Tracks .inString .inString bound (readUnit high) (readUnit high) := by
  intro c c' a d ht hb h
  unfold readUnit at h ⊢
  split at h
  · exact absurd h faultHere_ne_ok
  next hlone =>
    rw [if_neg hlone]
    split at h <;> rename_i hhigh
    · rw [if_pos hhigh]
      have hescape : Tracks .inString .escaped bound (readSurrogateMark '\\') _ :=
        tracks_readSurrogateMark rfl rfl bound
      have hmark : Tracks .escaped .inString bound (readSurrogateMark 'u') _ :=
        tracks_readSurrogateMark rfl rfl bound
      exact hescape.bind (fun _ => hmark.bind fun _ => (tracks_readHexUnit bound).bind fun low =>
        tracks_pairUnits high low bound) ht hb h
    · rw [if_neg hhigh]
      exact tracks_pure .inString _ bound ht hb h

theorem tracks_readUnicodeEscape (bound : Nat) :
    Tracks .inString .inString bound readUnicodeEscape readUnicodeEscape := by
  rw [readUnicodeEscape_eq]
  exact (tracks_readHexUnit bound).bind fun high => tracks_readUnit high bound

/-- An escape: the one with a unit, or a single letter. -/
theorem tracks_readEscape (bound : Nat) :
    Tracks .escaped .inString bound readEscape readEscape := by
  intro c c' a d ht hb h
  unfold readEscape at h ⊢
  split at h
  case h_1 => exact absurd h faultHere_ne_ok
  case h_2 rest hc =>
    obtain ⟨rest', hc', hfollows⟩ :=
      (tracks_readUnicodeEscape bound).behind ht hc rfl rfl (Nat.le_of_lt hb) h
    simp only [hc']
    exact hfollows
  case h_11 => exact absurd h faultNext_ne_ok
  all_goals
    rename_i rest hc
    obtain ⟨rest', hc', hfollows⟩ :=
      (tracks_pure .inString _ bound).behind ht hc rfl rfl (Nat.le_of_lt hb) h
    simp only [hc']
    exact hfollows

/-- A character of a string that stands for itself. -/
theorem readStringTail_of_ne {c : Cursor} {x : Char} {rest : List Char} (hc : c.rest = x :: rest)
    (hquote : x ≠ '"') (hescape : x ≠ '\\') (bound : Nat) (read : List Char) :
    readStringTail (bound + 1) read c =
      if x.toNat < 32 then c.faultNext .controlCharacter
      else readStringTail bound (x :: read) c.advance := by
  rw [readStringTail]
  simp only [hc]

theorem takes_inString {x : Char} (h : ¬x.toNat < 32) : takes .inString x = true := by
  simpa [takes, allows] using h

/-- The characters of a string, one after another. Each turn of the loop for the text with fewer blanks
has at least one character to read. -/
theorem tracks_readString (turns bound : Nat) (read : List Char) :
    Tracks .inString .outside bound (readStringTail turns read) (readStringTail bound read) := by
  induction turns generalizing bound read with
  | zero =>
    intro c c' a d ht hb h
    exact absurd h faultHere_ne_ok
  | succ turns ih =>
    intro c c' a d ht hb h
    obtain ⟨bound, rfl⟩ : ∃ n, bound = n + 1 := Nat.exists_eq_succ_of_ne_zero (by omega)
    cases hc : c.rest with
    | nil =>
      rw [readStringTail, hc] at h
      exact absurd h faultHere_ne_ok
    | cons x rest =>
      by_cases hquote : x = '"'
      · subst hquote
        rw [readStringTail] at h ⊢
        simp only [hc] at h
        obtain ⟨rest', hc', hfollows⟩ :=
          (tracks_pure .outside _ (bound + 1)).behind ht hc rfl rfl (Nat.le_of_lt hb) h
        simp only [hc']
        exact hfollows
      · by_cases hescape : x = '\\'
        · subst hescape
          rw [readStringTail] at h ⊢
          simp only [hc] at h
          obtain ⟨rest', hc', hfollows⟩ :=
            ((tracks_readEscape bound).bind fun e => ih bound (e :: read)).behind ht hc rfl rfl
              (Nat.le_of_lt_succ hb) h
          simp only [hc']
          exact hfollows
        · rw [readStringTail_of_ne hc hquote hescape] at h
          split at h
          · exact absurd h faultNext_ne_ok
          next hcontrol =>
            obtain ⟨rest', hc', hfollows⟩ := (ih bound (x :: read)).behind ht hc
              (takes_inString hcontrol) (Place.after_inString hquote hescape)
              (Nat.le_of_lt_succ hb) h
            rw [readStringTail_of_ne hc' hquote hescape, if_neg hcontrol]
            exact hfollows

/-! ## Lists -/

theorem isBlank_of_skip {c : Cursor} {x : Char} {rest : List Char}
    (hc : (c.skipWhile isBlank).rest = x :: rest) : isBlank x = false := by
  have hhead := List.head?_dropWhile_not isBlank c.rest
  have hrest : c.rest.dropWhile isBlank = x :: rest := hc
  rw [hrest] at hhead
  exact hhead

/-- Behind blanks, a character that is none is the same in both texts. -/
theorem Trims.skip_cons {c c' : Cursor} (ht : Trims .outside c.rest c'.rest) {x : Char}
    {rest : List Char} (hc : (c.skipWhile isBlank).rest = x :: rest) :
    ∃ rest', (c'.skipWhile isBlank).rest = x :: rest' := by
  have hskip := (Passes.skip ht).trims
  rw [hc] at hskip
  obtain ⟨rest', hc', -⟩ := hskip.cons_inv fun _ => isBlank_of_skip hc
  exact ⟨rest', hc'⟩

section

variable {item item' : Reader Json} {bound : Nat}

theorem tracks_readListTail (hitem : Tracks .outside .outside bound item item') (turns : Nat)
    {turns' : Nat} (hle : turns' ≤ bound) (read : List Json) :
    Tracks .outside .outside turns' (readListTail item turns read)
      (readListTail item' turns' read) := by
  induction turns generalizing turns' read with
  | zero =>
    intro c c' a d ht hb h
    exact absurd h faultHere_ne_ok
  | succ turns ih =>
    intro c c' a d ht hb h
    obtain ⟨turns', rfl⟩ : ∃ n, turns' = n + 1 := Nat.exists_eq_succ_of_ne_zero (by omega)
    rw [readListTail] at h ⊢
    have hskip := Passes.skip ht
    refine hskip.follows ?_
    have hb := Nat.lt_of_le_of_lt hskip.length_le hb
    split at h
    · exact absurd h faultNext_ne_ok
    next rest hc =>
      obtain ⟨rest', hc', hfollows⟩ :=
        (tracks_pure .outside _ (turns' + 1)).behind hskip.trims hc rfl rfl (Nat.le_of_lt hb) h
      simp only [hc']
      exact hfollows
    next rest hc =>
      obtain ⟨rest', hc', hcomma⟩ := Passes.step hskip.trims hc rfl rfl
      simp only [hc']
      have hnext := Passes.skip hcomma.trims
      refine (hcomma.trans hnext).follows ?_
      have hlength : (c'.skipWhile isBlank).advance.rest.length < turns' := by
        rw [Cursor.rest_advance hc']
        rw [hc', List.length_cons] at hb
        omega
      have hitems := (hitem.of_le (Nat.le_of_succ_le hle)).bind fun value =>
        ih (Nat.le_of_succ_le hle) (value :: read)
      dsimp only at h ⊢
      split at h
      · exact absurd h faultNext_ne_ok
      · exact absurd h faultNext_ne_ok
      next hnil hclose =>
        obtain ⟨y, more, hy⟩ := List.exists_cons_of_ne_nil hnil
        obtain ⟨more', hy'⟩ := hcomma.trims.skip_cons hy
        split
        next hnil' => cases hy'.symm.trans hnil'
        next hclose' =>
          cases hy'.symm.trans hclose'
          exact absurd hy (hclose _)
        next => exact hitems hnext.trims (Nat.lt_of_le_of_lt hnext.length_le hlength) h
    · exact absurd h faultNext_ne_ok

theorem tracks_readList (hitem : Tracks .outside .outside bound item item') (turns : Nat) :
    Tracks .outside .outside bound (readList item turns) (readList item' bound) := by
  intro c c' a d ht hb h
  unfold readList at h ⊢
  have hskip := Passes.skip ht
  refine hskip.follows ?_
  have hb := Nat.lt_of_le_of_lt hskip.length_le hb
  dsimp only at h ⊢
  split at h
  · exact absurd h faultNext_ne_ok
  next rest hc =>
    obtain ⟨rest', hc', hfollows⟩ :=
      (tracks_pure .outside _ bound).behind hskip.trims hc rfl rfl (Nat.le_of_lt hb) h
    simp only [hc']
    exact hfollows
  next hnil hclose =>
    obtain ⟨y, more, hy⟩ := List.exists_cons_of_ne_nil hnil
    obtain ⟨more', hy'⟩ := ht.skip_cons hy
    split
    next hnil' => cases hy'.symm.trans hnil'
    next hclose' =>
      cases hy'.symm.trans hclose'
      exact absurd hy (hclose _)
    next =>
      exact hitem.bind (fun value => tracks_readListTail hitem turns (Nat.le_refl _) [value])
        hskip.trims hb h

/-! ## Objects -/

/-- The value of a field behind its key. -/
def readFieldValue (item : Reader Json) (key : String) : Reader (String × Json) := fun cursor =>
  let cursor := cursor.skipWhile isBlank
  match cursor.rest with
  | [] => cursor.faultNext .endInObject
  | ':' :: _ => do
    let (value, cursor) ← item cursor.advance
    .ok ((key, value), cursor)
  | _ => cursor.faultNext .expectedColon

theorem readField_eq (item : Reader Json) (bound : Nat) (cursor : Cursor) :
    readField item bound cursor = (do
      let (key, cursor) ← readStringTail bound [] cursor.advance
      readFieldValue item key cursor) := rfl

theorem tracks_readFieldValue (hitem : Tracks .outside .outside bound item item') (key : String) :
    Tracks .outside .outside bound (readFieldValue item key) (readFieldValue item' key) := by
  intro c c' a d ht hb h
  unfold readFieldValue at h ⊢
  have hskip := Passes.skip ht
  refine hskip.follows ?_
  have hb := Nat.lt_of_le_of_lt hskip.length_le hb
  dsimp only at h ⊢
  split at h
  · exact absurd h faultNext_ne_ok
  next rest hc =>
    have hvalue := hitem.bind fun value => tracks_pure .outside (key, value) bound
    obtain ⟨rest', hc', hfollows⟩ := hvalue.behind hskip.trims hc rfl rfl (Nat.le_of_lt hb) h
    simp only [hc']
    exact hfollows
  · exact absurd h faultNext_ne_ok

/-- A field from the opening quote of its key, and what is read behind it. -/
theorem follows_readField (hitem : Tracks .outside .outside bound item item') (text : Nat)
    {turns : Nat} {next next' : String × Json → Reader (Fields Json)}
    (hn : ∀ field, Tracks .outside .outside turns (next field) (next' field)) {c c' d : Cursor}
    {a : Fields Json} {rest : List Char} (ht : Trims .outside c.rest c'.rest)
    (hc : c.rest = '"' :: rest) (hb : c'.rest.length < bound) (hturns : c'.rest.length < turns)
    (h : (do let (field, e) ← readField item text c; next field e) = .ok (a, d)) :
    ∃ rest', c'.rest = '"' :: rest' ∧ Follows .outside .outside c c' a d
      (do let (field, e) ← readField item' bound c'; next' field e) := by
  obtain ⟨⟨field, e⟩, hfield, hnext⟩ := except_bind_eq_ok.mp h
  rw [readField_eq] at hfield
  have hread := (tracks_readString text bound []).bind fun key => tracks_readFieldValue hitem key
  obtain ⟨rest', hc', e', hfield', hpasses⟩ := hread.behind ht hc rfl rfl (Nat.le_of_lt hb) hfield
  obtain ⟨d', hnext', hpasses'⟩ :=
    hn field hpasses.trims (Nat.lt_of_le_of_lt hpasses.length_le hturns) hnext
  exact ⟨rest', hc', d', except_bind_eq_ok.mpr ⟨(field, e'), hfield', hnext'⟩,
    hpasses.trans hpasses'⟩

theorem tracks_readObjectTail (hitem : Tracks .outside .outside bound item item')
    (text turns : Nat) {turns' : Nat} (hle : turns' ≤ bound) (read : Fields Json) :
    Tracks .outside .outside turns' (readObjectTail item text turns read)
      (readObjectTail item' bound turns' read) := by
  induction turns generalizing turns' read with
  | zero =>
    intro c c' a d ht hb h
    exact absurd h faultHere_ne_ok
  | succ turns ih =>
    intro c c' a d ht hb h
    obtain ⟨turns', rfl⟩ : ∃ n, turns' = n + 1 := Nat.exists_eq_succ_of_ne_zero (by omega)
    rw [readObjectTail] at h ⊢
    have hskip := Passes.skip ht
    refine hskip.follows ?_
    have hb := Nat.lt_of_le_of_lt hskip.length_le hb
    dsimp only at h ⊢
    split at h
    · exact absurd h faultNext_ne_ok
    next rest hc =>
      obtain ⟨rest', hc', hfollows⟩ :=
        (tracks_pure .outside _ (turns' + 1)).behind hskip.trims hc rfl rfl (Nat.le_of_lt hb) h
      simp only [hc']
      exact hfollows
    next rest hc =>
      obtain ⟨rest', hc', hcomma⟩ := Passes.step hskip.trims hc rfl rfl
      simp only [hc']
      have hnext := Passes.skip hcomma.trims
      refine (hcomma.trans hnext).follows ?_
      have hlength : (c'.skipWhile isBlank).advance.rest.length < turns' := by
        rw [Cursor.rest_advance hc']
        rw [hc', List.length_cons] at hb
        omega
      have hlength := Nat.lt_of_le_of_lt hnext.length_le hlength
      split at h
      · exact absurd h faultNext_ne_ok
      next more hmore =>
        obtain ⟨more', hmore', hfollows⟩ := follows_readField hitem text
          (fun field => ih (Nat.le_of_succ_le hle) (read.put field.1 field.2)) hnext.trims hmore
          (Nat.lt_of_lt_of_le hlength (Nat.le_of_succ_le hle)) hlength h
        simp only [hmore']
        exact hfollows
      · exact absurd h faultNext_ne_ok
      · exact absurd h faultNext_ne_ok
    · exact absurd h faultNext_ne_ok

theorem tracks_readObject (hitem : Tracks .outside .outside bound item item') (turns : Nat) :
    Tracks .outside .outside bound (readObject item turns) (readObject item' bound) := by
  intro c c' a d ht hb h
  unfold readObject at h ⊢
  have hskip := Passes.skip ht
  refine hskip.follows ?_
  have hb := Nat.lt_of_le_of_lt hskip.length_le hb
  dsimp only at h ⊢
  split at h
  · exact absurd h faultNext_ne_ok
  next rest hc =>
    obtain ⟨rest', hc', hfollows⟩ :=
      (tracks_pure .outside _ bound).behind hskip.trims hc rfl rfl (Nat.le_of_lt hb) h
    simp only [hc']
    exact hfollows
  next rest hc =>
    obtain ⟨rest', hc', hfollows⟩ := follows_readField hitem turns
      (fun field => tracks_readObjectTail hitem turns turns (Nat.le_refl _) [(field.1, field.2)])
      hskip.trims hc hb hb h
    simp only [hc']
    exact hfollows
  · exact absurd h faultNext_ne_ok

/-! ## Values -/

/-- The readers of nested values, if there may be any. -/
inductive TracksInner (bound : Nat) : Option (Reader Json) → Option (Reader Json) → Prop
  | none : TracksInner bound none none
  | some {item item' : Reader Json} (h : Tracks .outside .outside bound item item') :
      TracksInner bound (some item) (some item')

/-- One case for each way in which a value can begin. -/
theorem tracks_readValueWith {inner inner' : Option (Reader Json)}
    (hinner : TracksInner bound inner inner') (turns : Nat) :
    Tracks .outside .outside bound (readValueWith inner turns) (readValueWith inner' bound) := by
  intro c c' a d ht hb h
  unfold readValueWith at h ⊢
  have hskip := Passes.skip ht
  refine hskip.follows ?_
  have hb := Nat.lt_of_le_of_lt hskip.length_le hb
  dsimp only at h ⊢
  split at h
  · exact absurd h faultNext_ne_ok
  next rest hc =>
    have hword := (tracks_readWord ['u', 'l', 'l'] rfl bound).map fun _ => Json.null
    obtain ⟨rest', hc', hfollows⟩ := hword.behind hskip.trims hc rfl rfl (Nat.le_of_lt hb) h
    simp only [hc']
    exact hfollows
  next rest hc =>
    have hword := (tracks_readWord ['r', 'u', 'e'] rfl bound).map fun _ => Json.bool true
    obtain ⟨rest', hc', hfollows⟩ := hword.behind hskip.trims hc rfl rfl (Nat.le_of_lt hb) h
    simp only [hc']
    exact hfollows
  next rest hc =>
    have hword := (tracks_readWord ['a', 'l', 's', 'e'] rfl bound).map fun _ => Json.bool false
    obtain ⟨rest', hc', hfollows⟩ := hword.behind hskip.trims hc rfl rfl (Nat.le_of_lt hb) h
    simp only [hc']
    exact hfollows
  next rest hc =>
    have hnumber := (tracks_readNumber true bound).map Json.number
    obtain ⟨rest', hc', hfollows⟩ := hnumber.behind hskip.trims hc rfl rfl (Nat.le_of_lt hb) h
    simp only [hc']
    exact hfollows
  next rest hc =>
    have hstring := (tracks_readString turns bound []).map Json.text
    obtain ⟨rest', hc', hfollows⟩ := hstring.behind hskip.trims hc rfl rfl (Nat.le_of_lt hb) h
    simp only [hc']
    exact hfollows
  next rest hc =>
    cases hinner with
    | none => exact absurd h faultNext_ne_ok
    | some hitem =>
      have hlist := (tracks_readList hitem turns).map Json.array
      obtain ⟨rest', hc', hfollows⟩ := hlist.behind hskip.trims hc rfl rfl (Nat.le_of_lt hb) h
      simp only [hc']
      exact hfollows
  next rest hc =>
    cases hinner with
    | none => exact absurd h faultNext_ne_ok
    | some hitem =>
      have hobject := (tracks_readObject hitem turns).map Json.object
      obtain ⟨rest', hc', hfollows⟩ := hobject.behind hskip.trims hc rfl rfl (Nat.le_of_lt hb) h
      simp only [hc']
      exact hfollows
  next x rest _ _ _ _ _ _ _ hc =>
    split at h
    next hdigit =>
      obtain ⟨rest', hc'⟩ := ht.skip_cons hc
      simp only [hc', if_pos hdigit]
      exact ((tracks_readNumber false bound).map Json.number) hskip.trims hb h
    · exact absurd h faultNext_ne_ok

/-- A value, as deep as it may nest. The induction is on the levels. -/
theorem tracks_readValue (turns bound levels : Nat) :
    Tracks .outside .outside bound (readValue turns levels) (readValue bound levels) := by
  induction levels with
  | zero => exact tracks_readValueWith .none turns
  | succ levels ih => exact tracks_readValueWith (.some ih) turns

end

/-! ## Documents -/

variable {levels : Nat} {text less : String} {value : Json}

/-- A document is a value with blanks behind it. -/
theorem parse_eq_ok_iff : parse levels text = .ok value ↔
    ∃ d, readValue (text.toList.length + 1) levels ⟨text.toList, .start⟩ = .ok (value, d) ∧
      (d.skipWhile isBlank).rest = [] := by
  unfold parse
  rw [except_bind_eq_ok]
  constructor
  · rintro ⟨⟨found, d⟩, hread, h⟩
    dsimp only at h
    split at h
    next hrest =>
      cases h
      exact ⟨d, hread, hrest⟩
    · exact absurd h faultNext_ne_ok
  · rintro ⟨d, hread, hrest⟩
    refine ⟨(value, d), hread, ?_⟩
    simp only [hrest]

/-- A document with fewer blanks is the same document, and it is sound. -/
theorem parse_trims (h : parse levels text = .ok value)
    (ht : Trims .outside text.toList less.toList) :
    parse levels less = .ok value ∧ Sound .outside text.toList := by
  obtain ⟨d, hread, hrest⟩ := parse_eq_ok_iff.mp h
  have hstart : Follows .outside .outside ⟨text.toList, .start⟩ ⟨less.toList, .start⟩ value d
      (readValue (less.toList.length + 1) levels ⟨less.toList, .start⟩) :=
    tracks_readValue (text.toList.length + 1) (less.toList.length + 1) levels ht
      (Nat.lt_succ_self _) hread
  obtain ⟨d', hread', hpasses⟩ := hstart
  have hskip := hpasses.trans (.skip hpasses.trims)
  have hnothing : Trims .outside [] (d'.skipWhile isBlank).rest := hrest ▸ hskip.trims
  refine ⟨parse_eq_ok_iff.mpr ⟨d', hread', hnothing.eq_nil⟩, hskip.sound ?_⟩
  rw [hrest]
  trivial

/-- **The reader of schema files is lawful.** -/
theorem lawful_reader : JsonReader.Lawful where
  no_slash := by
    intro front rest value h hplace
    have hsound := (parse_trims (except_mapError_eq_ok.mp h) (.refl _ _)).2
    have hallows := sound_iff.mp hsound front '/' rest String.toList_ofList
    rw [hplace] at hallows
    cases hallows
  no_control := by
    intro front rest c value h hc
    have hsound := (parse_trims (except_mapError_eq_ok.mp h) (.refl _ _)).2
    exact eq_outside_of_allows (sound_iff.mp hsound front c rest String.toList_ofList) hc
  blank := by
    intro front rest c value h hplace hc hgap
    refine except_mapError_eq_ok.mpr (parse_trims (except_mapError_eq_ok.mp h) ?_).1
    rw [String.toList_ofList, String.toList_ofList]
    refine Trims.append_left ?_
    rw [hplace]
    exact .drop hc hgap (.refl _ _)

end SchemaTypings.Json
