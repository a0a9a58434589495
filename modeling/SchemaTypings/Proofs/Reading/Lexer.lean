import Mathlib.Data.List.Forall2
import SchemaTypings.Text.Identifier

/-!
# Reading tokens

A text of type expressions is a sequence of tokens: names, literals and signs. Blanks and comments only keep
them apart. A name is as long as it can be and goes on over its dots. The reader goes over the text once,
character by character, and remembers what has begun.

* `lex?`: the tokens of a text, if it has nothing else.
* `Reads`, `Closes`, `Seals`: what a piece of text is read as, between tokens or anywhere.
* `reads_name`, `reads_numeral`, `closes_stringLiteral`, `closes_comment`: single tokens, and none.
-/

namespace SchemaTypings.Reading

/-- A token of the language of types. -/
inductive Token where
  /-- A keyword, or a name with its dots. -/
  | word (name : String)
  /-- A string literal. -/
  | text (value : String)
  /-- An integer without a sign. -/
  | numeral (value : Nat)
  /-- A character that is a token on its own. -/
  | sign (c : Char)
  /-- The sign of function types. -/
  | arrow
  /-- The sign of rest parameters. -/
  | ellipsis
deriving DecidableEq

/-- What has begun and is not yet over. -/
inductive Mode where
  | between
  | word (begun : List Char)
  | numeral (value : Nat)
  | text (begun : List Char)
  | escape (begun : List Char)
  | equals
  | dot
  | dots
  | slash
  | comment
  /-- In a comment, behind a character that may begin its end. -/
  | star
  /-- Something that is no token. -/
  | failed

/-- A reader behind a part of the text. -/
structure Lexer where
  tokens : List Token
  mode : Mode

/-- The characters that are tokens on their own. -/
def signs : List Char :=
  ['|', '&', '(', ')', '[', ']', '\x7b', '\x7d', '<', '>', ':', ';', ',', '?', '-']

/-- A character that goes on with a name. -/
def isWordChar (c : Char) : Bool := Text.isIdentifierChar c || c = '.'

/-- What a character behind a backslash stands for. -/
def unescape? (c : Char) : Option Char :=
  if c = 'n' then some '\n'
  else if c = 'r' then some '\r'
  else if c = '"' || c = '\\' then some c
  else none

namespace Lexer

/-- The reader behind the first character of something. -/
def start (tokens : List Token) (c : Char) : Lexer :=
  if c = ' ' then ⟨tokens, .between⟩
  else if signs.contains c then ⟨tokens ++ [.sign c], .between⟩
  else if Text.isIdentifierStart c then ⟨tokens, .word [c]⟩
  else if c.isDigit then ⟨tokens, .numeral (Nat.ofDigitChars 10 [c] 0)⟩
  else if c = '"' then ⟨tokens, .text []⟩
  else if c = '=' then ⟨tokens, .equals⟩
  else if c = '.' then ⟨tokens, .dot⟩
  else if c = '/' then ⟨tokens, .slash⟩
  else ⟨tokens, .failed⟩

/-- The reader behind one more character. -/
def step (l : Lexer) (c : Char) : Lexer :=
  match l.mode with
  | .between => start l.tokens c
  | .word begun =>
    if isWordChar c then ⟨l.tokens, .word (begun ++ [c])⟩
    else start (l.tokens ++ [.word (String.ofList begun)]) c
  | .numeral value =>
    if c.isDigit then ⟨l.tokens, .numeral (Nat.ofDigitChars 10 [c] value)⟩
    else if isWordChar c then ⟨l.tokens, .failed⟩
    else start (l.tokens ++ [.numeral value]) c
  | .text begun =>
    if c = '"' then ⟨l.tokens ++ [.text (String.ofList begun)], .between⟩
    else if c = '\\' then ⟨l.tokens, .escape begun⟩
    else if c = '\n' || c = '\r' then ⟨l.tokens, .failed⟩
    else ⟨l.tokens, .text (begun ++ [c])⟩
  | .escape begun =>
    match unescape? c with
    | some meant => ⟨l.tokens, .text (begun ++ [meant])⟩
    | none => ⟨l.tokens, .failed⟩
  | .equals => if c = '>' then ⟨l.tokens ++ [.arrow], .between⟩ else ⟨l.tokens, .failed⟩
  | .dot => if c = '.' then ⟨l.tokens, .dots⟩ else ⟨l.tokens, .failed⟩
  | .dots => if c = '.' then ⟨l.tokens ++ [.ellipsis], .between⟩ else ⟨l.tokens, .failed⟩
  | .slash => if c = '*' then ⟨l.tokens, .comment⟩ else ⟨l.tokens, .failed⟩
  | .comment => if c = '*' then ⟨l.tokens, .star⟩ else ⟨l.tokens, .comment⟩
  | .star =>
    if c = '/' then ⟨l.tokens, .between⟩
    else if c = '*' then ⟨l.tokens, .star⟩
    else ⟨l.tokens, .comment⟩
  | .failed => l

/-- The reader behind a text. -/
def run (l : Lexer) (text : String) : Lexer := text.toList.foldl step l

/-- The tokens, if the text may end here. -/
def finish? (l : Lexer) : Option (List Token) :=
  match l.mode with
  | .between => some l.tokens
  | .word begun => some (l.tokens ++ [.word (String.ofList begun)])
  | .numeral value => some (l.tokens ++ [.numeral value])
  | _ => none

end Lexer

/-- The tokens of a text. -/
def lex? (text : String) : Option (List Token) := (Lexer.run ⟨[], .between⟩ text).finish?

/-! ## Pieces of a text -/

/-- Between tokens, a text is read as these tokens. The last one may still go on. -/
def Reads (text : String) (tokens : List Token) : Prop :=
  ∀ before, (Lexer.run ⟨before, .between⟩ text).finish? = some (before ++ tokens)

/-- Between tokens, a text is read as these tokens, and the last one is over. -/
def Closes (text : String) (tokens : List Token) : Prop :=
  ∀ before, Lexer.run ⟨before, .between⟩ text = ⟨before ++ tokens, .between⟩

/-- Whatever stands before it, a text is read as these tokens: it does not go on with a name or a number. -/
structure Seals (text : String) (tokens : List Token) : Prop where
  closes : Closes text tokens
  breaks : (text.toList.head?.any fun c => !isWordChar c) = true

theorem lex?_of_reads {text : String} {tokens : List Token} (h : Reads text tokens) :
    lex? text = some tokens := h []

theorem run_append (l : Lexer) (first second : String) :
    l.run (first ++ second) = (l.run first).run second := by
  rw [Lexer.run, String.toList_append, List.foldl_append]
  rfl

variable {first second : String} {tokens others : List Token}

theorem Closes.reads (h : Closes first tokens) : Reads first tokens := by
  intro before
  rw [h before]
  rfl

theorem Closes.append (h : Closes first tokens) (hs : Closes second others) :
    Closes (first ++ second) (tokens ++ others) := by
  intro before
  rw [run_append, h before, hs, List.append_assoc]

theorem Closes.append_reads (h : Closes first tokens) (hs : Reads second others) :
    Reads (first ++ second) (tokens ++ others) := by
  intro before
  rw [run_append, h before, hs, List.append_assoc]

/-- A character that does not go on with anything begins something behind it. -/
theorem step_of_finish? {l : Lexer} (h : l.finish? = some tokens) {c : Char}
    (hc : isWordChar c = false) : l.step c = Lexer.start tokens c := by
  obtain ⟨before, mode⟩ := l
  cases mode with
  | between =>
    cases h
    rfl
  | word begun =>
    cases h
    simp [Lexer.step, hc]
  | numeral value =>
    cases h
    have hdigit : c.isDigit = false := by
      simp only [isWordChar, Text.isIdentifierChar, Char.isAlphanum, Bool.or_eq_false_iff] at hc
      exact hc.1.1.1.2
    simp [Lexer.step, hc, hdigit]
  | _ => cases h

theorem Seals.exists_cons {text : String} (h : Seals text tokens) :
    ∃ c rest, text.toList = c :: rest ∧ isWordChar c = false := by
  have hbreaks := h.breaks
  cases htext : text.toList with
  | nil =>
    rw [htext] at hbreaks
    cases hbreaks
  | cons c rest =>
    rw [htext] at hbreaks
    exact ⟨c, rest, rfl, by simpa using hbreaks⟩

theorem Reads.append_closes (h : Reads first tokens) (hs : Seals second others) :
    Closes (first ++ second) (tokens ++ others) := by
  intro before
  obtain ⟨c, rest, hsecond, hword⟩ := hs.exists_cons
  have hrun : ∀ l, Lexer.run l second = rest.foldl Lexer.step (l.step c) := by
    intro l
    rw [Lexer.run, hsecond, List.foldl_cons]
  have hclosed := hs.closes (before ++ tokens)
  rw [hrun] at hclosed
  rw [run_append, hrun, step_of_finish? (h before) hword, ← List.append_assoc]
  exact hclosed

theorem Seals.append (h : Seals first tokens) (hs : Closes second others) :
    Seals (first ++ second) (tokens ++ others) := by
  refine ⟨h.closes.append hs, ?_⟩
  obtain ⟨c, rest, hfirst, hword⟩ := h.exists_cons
  rw [String.toList_append, hfirst, List.cons_append, List.head?_cons, Option.any_some, hword]
  rfl

/-- Texts with a separator between them are read one by one. -/
theorem reads_intercalate {separator : String} {sign : Token} (hs : Seals separator [sign])
    {texts : List String} {lists : List (List Token)} (h : List.Forall₂ Reads texts lists) :
    Reads (String.intercalate separator texts) (List.intercalate [sign] lists) := by
  induction h with
  | nil => exact fun before => by simp [Lexer.run, Lexer.finish?]
  | @cons text list texts lists hfirst hrest ih =>
    cases hrest with
    | nil =>
      rw [String.intercalate_singleton, List.intercalate_singleton]
      exact hfirst
    | cons hsecond htail =>
      rw [String.intercalate_cons_cons, List.intercalate_cons_cons]
      exact (hfirst.append_closes hs).append_reads ih

/-! ## Single tokens -/

theorem isWordChar_of_isIdentifierStart {c : Char} (h : Text.isIdentifierStart c = true) :
    isWordChar c = true := by
  simp only [Text.isIdentifierStart, isWordChar, Text.isIdentifierChar, Char.isAlphanum,
    Bool.or_eq_true] at h ⊢
  tauto

theorem isWordChar_of_isDigit {c : Char} (h : c.isDigit = true) : isWordChar c = true := by
  simp [isWordChar, Text.isIdentifierChar, Char.isAlphanum, h]

theorem not_isIdentifierStart_of_isDigit {c : Char} (h : c.isDigit = true) :
    Text.isIdentifierStart c = false := by
  have hne : c ≠ '_' ∧ c ≠ '$' := by
    constructor <;> rintro rfl <;> exact absurd h (by decide)
  have halpha : c.isAlpha = false := by
    refine Bool.eq_false_iff.mpr fun halpha => ?_
    have hlast : c.val ≤ 57 := of_decide_eq_true (Bool.and_eq_true_iff.mp h).2
    have hfirst : 65 ≤ c.val := by
      rcases Bool.or_eq_true_iff.mp halpha with hupper | hlower
      · exact (of_decide_eq_true hupper).1
      · exact UInt32.le_trans (by decide) (of_decide_eq_true (Bool.and_eq_true_iff.mp hlower).1)
    exact absurd (UInt32.le_trans hfirst hlast) (by decide)
  simp [Text.isIdentifierStart, halpha, hne]

/-- Neither a blank nor a sign goes on with a name. -/
theorem not_sign_of_isWordChar {c : Char} (h : isWordChar c = true) :
    c ≠ ' ' ∧ c ∉ signs := by
  have hsigns : signs.any isWordChar = false := by decide
  constructor
  · rintro rfl
    exact absurd h (by decide)
  · exact fun hc => List.any_eq_false.mp hsigns c hc h

/-- A beginning of a name and characters that go on with it are a name. -/
theorem reads_word {name : String} {c : Char} {rest : List Char} (hname : name.toList = c :: rest)
    (hc : Text.isIdentifierStart c = true) (hrest : ∀ d ∈ rest, isWordChar d = true) :
    Reads name [.word name] := by
  have hgoes : ∀ (before : List Token) (begun cs : List Char), (∀ d ∈ cs, isWordChar d = true) →
      cs.foldl Lexer.step ⟨before, .word begun⟩ = ⟨before, .word (begun ++ cs)⟩ := by
    intro before begun cs hcs
    induction cs generalizing begun with
    | nil => rw [List.append_nil]; rfl
    | cons d cs ih =>
      have hd : Lexer.step ⟨before, .word begun⟩ d = ⟨before, .word (begun ++ [d])⟩ := by
        simp [Lexer.step, hcs d List.mem_cons_self]
      rw [List.foldl_cons, hd, ih _ fun e he => hcs e (List.mem_cons_of_mem d he),
        List.append_assoc, List.singleton_append]
  intro before
  obtain ⟨hblank, hsign⟩ := not_sign_of_isWordChar (isWordChar_of_isIdentifierStart hc)
  have hstart : Lexer.step ⟨before, .between⟩ c = ⟨before, .word [c]⟩ := by
    simp [Lexer.step, Lexer.start, hblank, hsign, hc]
  rw [Lexer.run, hname, List.foldl_cons, hstart, hgoes before [c] rest hrest,
    List.singleton_append, ← hname]
  simp only [Lexer.finish?, String.ofList_toList]

theorem reads_numeral (n : Nat) : Reads (toString n) [.numeral n] := by
  have hgoes : ∀ (before : List Token) (value : Nat) (cs : List Char),
      (∀ d ∈ cs, d.isDigit = true) →
        cs.foldl Lexer.step ⟨before, .numeral value⟩ =
          ⟨before, .numeral (Nat.ofDigitChars 10 cs value)⟩ := by
    intro before value cs hcs
    induction cs generalizing value with
    | nil => rfl
    | cons d cs ih =>
      have hd : Lexer.step ⟨before, .numeral value⟩ d =
          ⟨before, .numeral (Nat.ofDigitChars 10 [d] value)⟩ := by
        simp [Lexer.step, hcs d List.mem_cons_self]
      rw [List.foldl_cons, hd, ih _ fun e he => hcs e (List.mem_cons_of_mem d he)]
      rfl
  have hdigits : (toString n).toList = Nat.toDigits 10 n := by
    rw [Nat.toString_eq_ofList_toDigits, String.toList_ofList]
  intro before
  rw [Lexer.run, hdigits]
  cases hds : Nat.toDigits 10 n with
  | nil => exact absurd hds Nat.toDigits_ne_nil
  | cons d rest =>
    have hall : ∀ e ∈ d :: rest, e.isDigit = true := fun e he =>
      Nat.isDigit_of_mem_toDigits (by decide) (by decide) (hds ▸ he)
    have hd := hall d List.mem_cons_self
    obtain ⟨hblank, hsign⟩ := not_sign_of_isWordChar (isWordChar_of_isDigit hd)
    have hstart : Lexer.step ⟨before, .between⟩ d =
        ⟨before, .numeral (Nat.ofDigitChars 10 [d] 0)⟩ := by
      simp [Lexer.step, Lexer.start, hblank, hsign, hd, not_isIdentifierStart_of_isDigit hd]
    have hvalue : Nat.ofDigitChars 10 rest (Nat.ofDigitChars 10 [d] 0) = n := by
      rw [← Nat.ofDigitChars_append, List.singleton_append, ← hds, Nat.ofDigitChars_ten_toDigits]
    rw [List.foldl_cons, hstart, hgoes _ _ rest fun e he => hall e (List.mem_cons_of_mem d he), hvalue]
    rfl

theorem closes_stringLiteral (s : String) : Closes (Text.stringLiteral s) [.text s] := by
  have hchar : ∀ (before : List Token) (begun : List Char) (c : Char),
      (Text.literalChar c).foldl Lexer.step ⟨before, .text begun⟩ =
        ⟨before, .text (begun ++ [c])⟩ := by
    intro before begun c
    unfold Text.literalChar
    split_ifs with hbackslash hquote hfeed hreturn
    · subst hbackslash; rfl
    · subst hquote; rfl
    · subst hfeed; rfl
    · subst hreturn; rfl
    · simp [Lexer.step, hbackslash, hquote, hfeed, hreturn]
  have hbody : ∀ (before : List Token) (begun cs : List Char),
      (cs.flatMap Text.literalChar).foldl Lexer.step ⟨before, .text begun⟩ =
        ⟨before, .text (begun ++ cs)⟩ := by
    intro before begun cs
    induction cs generalizing begun with
    | nil => rw [List.append_nil]; rfl
    | cons c cs ih =>
      rw [List.flatMap_cons, List.foldl_append, hchar, ih, List.append_assoc, List.singleton_append]
  intro before
  have hopen : Lexer.run ⟨before, .between⟩ "\"" = ⟨before, .text []⟩ := rfl
  have hescaped : Lexer.run ⟨before, .text []⟩ (Text.escapeLiteral s) = ⟨before, .text s.toList⟩ := by
    rw [Lexer.run, Text.escapeLiteral, String.toList_ofList, hbody, List.nil_append]
  rw [Text.stringLiteral, run_append, run_append, hopen, hescaped]
  have hclose : Lexer.run ⟨before, .text s.toList⟩ "\"" =
      ⟨before ++ [.text (String.ofList s.toList)], .between⟩ := rfl
  rw [hclose, String.ofList_toList]

/-! ## Comments -/

/-- What ends a comment. -/
def commentEnd : List Char := ['*', '/']

/-- A reader inside a comment. -/
def InComment (before : List Token) (l : Lexer) : Prop :=
  l = ⟨before, .comment⟩ ∨ l = ⟨before, .star⟩

/-- A text that has no end of a comment stays in it. -/
theorem inComment_foldl (before : List Token) {cs : List Char} (h : ¬commentEnd <:+: cs) :
    InComment before (cs.foldl Lexer.step ⟨before, .comment⟩) ∧
      (cs.head? ≠ some '/' → InComment before (cs.foldl Lexer.step ⟨before, .star⟩)) := by
  induction cs with
  | nil => exact ⟨.inl rfl, fun _ => .inr rfl⟩
  | cons c cs ih =>
    obtain ⟨hcomment, hstar⟩ := ih fun hwithin => h (hwithin.trans (List.suffix_cons c cs).isInfix)
    by_cases hc : c = '*'
    · subst hc
      -- the next character cannot end the comment
      have hnext : cs.head? ≠ some '/' := by
        intro hhead
        obtain ⟨rest, rfl⟩ := List.head?_eq_some_iff.mp hhead
        exact h ⟨[], rest, rfl⟩
      exact ⟨hstar hnext, fun _ => hstar hnext⟩
    · have hcomments : Lexer.step ⟨before, .comment⟩ c = ⟨before, .comment⟩ := by
        simp [Lexer.step, hc]
      rw [List.foldl_cons, List.foldl_cons, hcomments]
      refine ⟨hcomment, fun hhead => ?_⟩
      have hslash : c ≠ '/' := fun heq => hhead (by rw [heq]; rfl)
      have hstars : Lexer.step ⟨before, .star⟩ c = ⟨before, .comment⟩ := by
        simp [Lexer.step, hc, hslash]
      rw [hstars]
      exact hcomment

/-- Lines without the end of a comment are a comment, and no token. -/
theorem closes_comment {lines : List String} (h : ∀ line ∈ lines, ¬commentEnd <:+: line.toList) :
    Closes ("/** " ++ String.intercalate " " lines ++ " */") [] := by
  intro before
  have hblank : ∀ l, InComment before l → l.step ' ' = ⟨before, .comment⟩ := by
    rintro l (rfl | rfl) <;> rfl
  have hlines : InComment before (Lexer.run ⟨before, .comment⟩ (String.intercalate " " lines)) := by
    induction lines with
    | nil => exact .inl rfl
    | cons line lines ih =>
      have hline := (inComment_foldl before (h line List.mem_cons_self)).1
      cases lines with
      | nil => rwa [String.intercalate_singleton]
      | cons next rest =>
        rw [String.intercalate_cons_cons, run_append, run_append]
        have hgap : (Lexer.run ⟨before, .comment⟩ line).run " " = ⟨before, .comment⟩ := hblank _ hline
        rw [hgap]
        exact ih fun other hother => h other (List.mem_cons_of_mem line hother)
  have hopen : Lexer.run ⟨before, .between⟩ "/** " = ⟨before, .comment⟩ := rfl
  rw [run_append, run_append, hopen, List.append_nil]
  rcases hlines with hend | hend <;> rw [hend] <;> rfl

end SchemaTypings.Reading
