import Mathlib.Logic.Function.Basic
import Mathlib.Tactic.SplitIfs
import SchemaTypings.Json.Parser
import SchemaTypings.Text.Identifier

/-!
# The values of string literals

A string value is a sequence of 16-bit code units; a character outside the basic plane has two of them. A
reader of string literals goes over the text once. It knows every escape of the language: single letters,
codes of two and four digits and in braces, zero, and line ends that a backslash takes out. It refuses line
breaks, octal escapes, and anything behind the closing quote.

* `stringValue?`, `stringValue?_stringLiteral`: a literal has the value that it was written for.
* `keyValue?`, `keyValue?_propertyKey`, `keyValue?_injective`: so does a property key, and no two names share one.
* `escapeLiteral_eq_passes`: one pass over the text escapes what four passes do, backslashes first.
-/

namespace SchemaTypings.Text

/-! ## Code units -/

/-- The code units of a code point: itself, or a pair of surrogates. -/
def codeUnits (code : Nat) : List Nat :=
  if code < 0x10000 then [code]
  else [0xD800 + (code - 0x10000) / 0x400, 0xDC00 + (code - 0x10000) % 0x400]

/-- The value of a text. -/
def units (s : String) : List Nat := s.toList.flatMap fun c => codeUnits c.toNat

/-- Code units tell where the first character ends, and which one it is. -/
theorem codeUnits_append_inj {c d : Char} {rest others : List Nat}
    (h : codeUnits c.toNat ++ rest = codeUnits d.toNat ++ others) : c = d ∧ rest = others := by
  have hc : c.toNat < 0xD800 ∨ 0xDFFF < c.toNat ∧ c.toNat < 0x110000 := c.valid
  have hd : d.toNat < 0xD800 ∨ 0xDFFF < d.toNat ∧ d.toNat < 0x110000 := d.valid
  have hcode : c.toNat = d.toNat ∧ rest = others := by
    unfold codeUnits at h
    split_ifs at h <;> simp only [List.cons_append, List.nil_append, List.cons.injEq] at h
    · exact h
    · omega
    · omega
    · exact ⟨by omega, h.2.2⟩
  exact ⟨Char.toNat_inj.mp hcode.1, hcode.2⟩

theorem units_injective : Function.Injective units := by
  have hlists : ∀ cs ds : List Char, cs.flatMap (fun c => codeUnits c.toNat) =
      ds.flatMap (fun c => codeUnits c.toNat) → cs = ds := by
    have hne : ∀ code, codeUnits code ≠ [] := fun code => by
      unfold codeUnits
      split_ifs <;> exact List.cons_ne_nil _ _
    intro cs
    induction cs with
    | nil =>
      rintro (_ | ⟨d, ds⟩) h
      · rfl
      · rw [List.flatMap_nil, List.flatMap_cons] at h
        exact absurd (List.append_eq_nil_iff.mp h.symm).1 (hne _)
    | cons c cs ih =>
      rintro (_ | ⟨d, ds⟩) h
      · rw [List.flatMap_nil, List.flatMap_cons] at h
        exact absurd (List.append_eq_nil_iff.mp h).1 (hne _)
      · rw [List.flatMap_cons, List.flatMap_cons] at h
        obtain ⟨rfl, hrest⟩ := codeUnits_append_inj h
        rw [ih ds hrest]
  exact fun a b h => String.toList_injective (hlists _ _ h)

/-! ## Reading a literal -/

/-- What a reader of a literal is behind. -/
inductive LiteralMode where
  | opening
  | inside
  | escape
  /-- Behind the escape for the code zero, which no digit may follow. -/
  | zero
  /-- In an escape by code: the digits behind the next one, and the value so far. -/
  | code (left value : Nat)
  /-- Where four digits or a brace may begin. -/
  | unicode
  /-- Between braces, with the value of the digits so far. -/
  | braced (value : Option Nat)
  /-- Behind a carriage return that a backslash took out; a line feed belongs to it. -/
  | continued
  | closed
  | failed

/-- A reader of a literal with the code units so far. -/
structure LiteralReader where
  units : List Nat
  mode : LiteralMode

namespace LiteralReader

/-- The character that an escape of a single letter stands for. -/
def unescaped (c : Char) : Nat :=
  if c = 'b' then 8
  else if c = 't' then 9
  else if c = 'n' then 10
  else if c = 'v' then 11
  else if c = 'f' then 12
  else if c = 'r' then 13
  else c.toNat

/-- Read a character of the text itself. -/
def plain (units : List Nat) (c : Char) : LiteralReader :=
  if c = '"' then ⟨units, .closed⟩
  else if c = '\\' then ⟨units, .escape⟩
  else if c = '\n' || c = '\r' then ⟨units, .failed⟩
  else ⟨units ++ codeUnits c.toNat, .inside⟩

/-- Read the character behind a backslash. -/
def behindBackslash (units : List Nat) (c : Char) : LiteralReader :=
  if c = 'x' then ⟨units, .code 1 0⟩
  else if c = 'u' then ⟨units, .unicode⟩
  else if c = '0' then ⟨units ++ [0], .zero⟩
  else if c.isDigit then ⟨units, .failed⟩
  else if c = '\r' then ⟨units, .continued⟩
  else if c = '\n' || c = '\u2028' || c = '\u2029' then ⟨units, .inside⟩
  else ⟨units ++ codeUnits (unescaped c), .inside⟩

/-- Read a digit of an escape by code. -/
def digit (units : List Nat) (left value : Nat) (c : Char) : LiteralReader :=
  match Json.hexValue? c, left with
  | none, _ => ⟨units, .failed⟩
  | some d, 0 => ⟨units ++ [value * 16 + d], .inside⟩
  | some d, left + 1 => ⟨units, .code left (value * 16 + d)⟩

/-- Read a character between braces. -/
def inBraces (units : List Nat) (value : Option Nat) (c : Char) : LiteralReader :=
  match value, Json.hexValue? c with
  | some code, none => if c = '\x7d' then ⟨units ++ codeUnits code, .inside⟩ else ⟨units, .failed⟩
  | none, none => ⟨units, .failed⟩
  | value, some d =>
    let code := value.getD 0 * 16 + d
    if code < 0x110000 then ⟨units, .braced (some code)⟩ else ⟨units, .failed⟩

/-- The reader behind one more character. -/
def step (r : LiteralReader) (c : Char) : LiteralReader :=
  match r.mode with
  | .opening => if c = '"' then ⟨r.units, .inside⟩ else ⟨r.units, .failed⟩
  | .inside => plain r.units c
  | .escape => behindBackslash r.units c
  | .zero => if c.isDigit then ⟨r.units, .failed⟩ else plain r.units c
  | .code left value => digit r.units left value c
  | .unicode => if c = '\x7b' then ⟨r.units, .braced none⟩ else digit r.units 3 0 c
  | .braced value => inBraces r.units value c
  | .continued => if c = '\n' then ⟨r.units, .inside⟩ else plain r.units c
  | .closed | .failed => ⟨r.units, .failed⟩

end LiteralReader

/-- The value of a text that is exactly one string literal. -/
def stringValue? (text : String) : Option (List Nat) :=
  match text.toList.foldl LiteralReader.step ⟨[], .opening⟩ with
  | ⟨units, .closed⟩ => some units
  | _ => none

theorem foldl_literalChar (before : List Nat) (c : Char) :
    (literalChar c).foldl LiteralReader.step ⟨before, .inside⟩ =
      ⟨before ++ codeUnits c.toNat, .inside⟩ := by
  unfold literalChar
  split_ifs with hbackslash hquote hfeed hreturn
  · subst hbackslash; rfl
  · subst hquote; rfl
  · subst hfeed; rfl
  · subst hreturn; rfl
  · simp [LiteralReader.step, LiteralReader.plain, hbackslash, hquote, hfeed, hreturn]

theorem foldl_escaped (before : List Nat) (cs : List Char) :
    (cs.flatMap literalChar).foldl LiteralReader.step ⟨before, .inside⟩ =
      ⟨before ++ cs.flatMap (fun c => codeUnits c.toNat), .inside⟩ := by
  induction cs generalizing before with
  | nil => rw [List.flatMap_nil, List.flatMap_nil, List.append_nil]; rfl
  | cons c cs ih =>
    rw [List.flatMap_cons, List.foldl_append, foldl_literalChar, ih, List.flatMap_cons,
      List.append_assoc]

/-- **A text as a literal is one string literal, and its value is the text.** -/
theorem stringValue?_stringLiteral (s : String) : stringValue? (stringLiteral s) = some (units s) := by
  have hopen : "\"".toList.foldl LiteralReader.step ⟨[], .opening⟩ = ⟨[], .inside⟩ := rfl
  have hbody : (escapeLiteral s).toList.foldl LiteralReader.step ⟨[], .inside⟩ =
      ⟨units s, .inside⟩ := by
    rw [escapeLiteral, String.toList_ofList, foldl_escaped, List.nil_append]
    rfl
  have hclose : "\"".toList.foldl LiteralReader.step ⟨units s, .inside⟩ = ⟨units s, .closed⟩ := rfl
  rw [stringValue?, stringLiteral, String.toList_append, String.toList_append, List.foldl_append,
    List.foldl_append, hopen, hbody, hclose]

/-! ## Escaping in passes -/

/-- Put a text in place of every occurrence of a character. -/
def replaceEach (c : Char) (replacement : String) (text : List Char) : List Char :=
  text.flatMap fun d => if d = c then replacement.toList else [d]

/-- **Escaping is four replacements one after another.** The backslashes come first, since the others bring
new ones. -/
theorem escapeLiteral_eq_passes (s : String) :
    (escapeLiteral s).toList =
      replaceEach '\r' "\\r" (replaceEach '\n' "\\n" (replaceEach '"' "\\\""
        (replaceEach '\\' "\\\\" s.toList))) := by
  rw [escapeLiteral, String.toList_ofList]
  simp only [replaceEach, List.flatMap_assoc]
  congr 1
  funext c
  unfold literalChar
  split_ifs with hbackslash hquote hfeed hreturn
  · subst hbackslash; rfl
  · subst hquote; rfl
  · subst hfeed; rfl
  · subst hreturn; rfl
  · simp [hquote, hfeed, hreturn]

/-! ## Property keys -/

/-- A character that a name may begin with; names beyond this script are always quoted. -/
def beginsName (c : Char) : Bool :=
  ('a' ≤ c && c ≤ 'z') || ('A' ≤ c && c ≤ 'Z') || c = '_' || c = '$'

/-- A character that a name may go on with. -/
def continuesName (c : Char) : Bool := beginsName c || ('0' ≤ c && c ≤ '9')

/-- Whether a text is a name. -/
def isName : List Char → Bool
  | [] => false
  | c :: rest => beginsName c && rest.all continuesName

/-- The value of a property key: a name means itself, and a string literal its value. -/
def keyValue? (text : String) : Option (List Nat) :=
  if isName text.toList then some (units text) else stringValue? text

theorem beginsName_of_isAlpha {c : Char} (h : c.isAlpha = true) : beginsName c = true := by
  rcases Bool.or_eq_true_iff.mp h with hupper | hlower
  · obtain ⟨hfirst, hlast⟩ := of_decide_eq_true hupper
    have hle : 'A' ≤ c ∧ c ≤ 'Z' := ⟨hfirst, hlast⟩
    simp [beginsName, hle]
  · obtain ⟨hfirst, hlast⟩ := Bool.and_eq_true_iff.mp hlower
    have hle : 'a' ≤ c ∧ c ≤ 'z' := ⟨of_decide_eq_true hfirst, of_decide_eq_true hlast⟩
    simp [beginsName, hle]

theorem beginsName_of_isIdentifierStart {c : Char} (h : isIdentifierStart c = true) :
    beginsName c = true := by
  simp only [isIdentifierStart, Bool.or_eq_true, decide_eq_true_eq] at h
  rcases h with (halpha | rfl) | rfl
  · exact beginsName_of_isAlpha halpha
  · rfl
  · rfl

theorem continuesName_of_isIdentifierChar {c : Char} (h : isIdentifierChar c = true) :
    continuesName c = true := by
  simp only [isIdentifierChar, Bool.or_eq_true, decide_eq_true_eq] at h
  rcases h with (halphanum | rfl) | rfl
  · rcases Bool.or_eq_true_iff.mp halphanum with halpha | hdigit
    · rw [continuesName, beginsName_of_isAlpha halpha, Bool.true_or]
    · obtain ⟨hfirst, hlast⟩ := Bool.and_eq_true_iff.mp hdigit
      have hle : '0' ≤ c ∧ c ≤ '9' := ⟨of_decide_eq_true hfirst, of_decide_eq_true hlast⟩
      simp [continuesName, hle]
  · rfl
  · rfl

theorem isName_of_isIdentifier {name : String} (h : isIdentifier name = true) :
    isName name.toList = true := by
  unfold isIdentifier at h
  cases hname : name.toList with
  | nil =>
    rw [hname] at h
    cases h
  | cons c rest =>
    rw [hname] at h
    obtain ⟨hstart, hall⟩ := Bool.and_eq_true_iff.mp h
    refine Bool.and_eq_true_iff.mpr ⟨beginsName_of_isIdentifierStart hstart, ?_⟩
    exact List.all_eq_true.mpr fun d hd => continuesName_of_isIdentifierChar
      (List.all_eq_true.mp hall d (List.mem_cons_of_mem c hd))

theorem not_isName_stringLiteral (s : String) : isName (stringLiteral s).toList = false := by
  rw [stringLiteral, String.toList_append, String.toList_append]
  rfl

/-- **A name as a property key means the name.** -/
theorem keyValue?_propertyKey (name : String) : keyValue? (propertyKey name) = some (units name) := by
  unfold propertyKey keyForm
  by_cases h : isIdentifier name = true
  · rw [if_pos h]
    exact if_pos (isName_of_isIdentifier h)
  · rw [if_neg h]
    show keyValue? (stringLiteral name) = _
    rw [keyValue?, not_isName_stringLiteral, if_neg Bool.false_ne_true, stringValue?_stringLiteral]

/-- Different names have keys that mean different things. -/
theorem keyValue?_injective : Function.Injective fun name => keyValue? (propertyKey name) := by
  intro a b h
  simp only [keyValue?_propertyKey, Option.some.injEq] at h
  exact units_injective h

end SchemaTypings.Text
