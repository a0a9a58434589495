import SchemaTypings.Declaration.Printer
import SchemaTypings.Proofs.Reading.Comments
import SchemaTypings.Proofs.Reading.Parser

/-!
# The tokens of a written type

What the printer writes falls into tokens one for one: blanks stand between tokens only, a name never
touches what would go on with it, literals are escaped, and comments show descriptions.

* `TypeExpr.isLegible`: the types whose parts a reader of types can tell.
* `TypeExpr.tokens`: the tokens of a type, parentheses where the printer puts them.
* `TypeExpr.reads_write`: the text of a legible type is read as its tokens.
-/

namespace SchemaTypings

open Reading

/-! ## Legible types -/

/-- Whether a literal is read as it is written; floating-point numbers are left out. -/
def Literal.isExact : Literal → Bool
  | number _ => false
  | _ => true

namespace TypeExpr

section Legible

variable (mayCall : String → Bool)

mutual

/-- Whether names are names, intersections are not empty, comments are descriptions of literals, and methods
are called what they may be called. -/
def isLegible : TypeExpr → Bool
  | .keyword _ => true
  | .literal l => l.isExact
  | .array item => isLegible item
  | .union types => areLegible types
  | .intersection types => !types.isEmpty && areLegible types
  | .object members => areLegibleMembers members
  | .function params returns => areLegibleParams params && isLegible returns
  | .reference name => isName name
  | .generic name args => isName name && areLegible args
  | .query name => isName name
  | .documented doc (.literal l) => doc.isDescription && l.isExact
  | .documented _ _ => false

/-- Whether all types are legible. -/
def areLegible : List TypeExpr → Bool
  | [] => true
  | t :: ts => isLegible t && areLegible ts

/-- Whether all parameters are legible. -/
def areLegibleParams : List (Param TypeExpr) → Bool
  | [] => true
  | p :: ps => isLegibleParam p && areLegibleParams ps

/-- Whether a parameter is legible. -/
def isLegibleParam : Param TypeExpr → Bool
  | ⟨name, type, _, _⟩ => isName name && isLegible type

/-- Whether all members are legible. -/
def areLegibleMembers : List (Member TypeExpr) → Bool
  | [] => true
  | m :: ms => isLegibleMember m && areLegibleMembers ms

/-- Whether a member is legible; any text may be the name of a property. -/
def isLegibleMember : Member TypeExpr → Bool
  | .property _ type _ _ => isLegible type
  | .method name params returns _ => mayCall name && (areLegibleParams params && isLegible returns)
  | .index key value => isName key && isLegible value

end

end Legible

end TypeExpr

/-! ## Tokens -/

/-- The tokens of a literal. -/
def Literal.tokens : Literal → List Token
  | string value => [.text value]
  | integer (.ofNat n) => [.numeral n]
  | integer (.negSucc n) => [.sign '-', .numeral (n + 1)]
  | number value => [.word (Layout.literal.write value)]
  | bool true => [.word "true"]
  | bool false => [.word "false"]

/-- The token of a name as a property key. -/
def keyToken (name : String) : Token :=
  match Text.keyForm name with
  | .bare => .word name
  | .quoted => .text name

/-- Tokens in parentheses if asked for. -/
def grouped (on : Bool) (ts : List Token) : List Token :=
  if on then [.sign '('] ++ ts ++ [.sign ')'] else ts

/-- A token if asked for. -/
def optionally (on : Bool) (token : Token) : List Token := if on then [token] else []

namespace TypeExpr

mutual

/-- The tokens of a type. -/
def tokens : TypeExpr → List Token
  | .keyword k => [.word k.write]
  | .literal l => l.tokens
  | .array item => grouped item.groupedInArray (tokens item) ++ [.sign '[', .sign ']']
  | .union [] => [.word Keyword.never.write]
  | .union (t :: ts) => List.intercalate [.sign '|'] (tokensGrouped groupedInUnion (t :: ts))
  | .intersection ts => List.intercalate [.sign '&'] (tokensGrouped groupedInIntersection ts)
  | .object members =>
    [.sign '\x7b'] ++ List.intercalate [.sign ';'] (tokensMembers members) ++ [.sign '\x7d']
  | .function params returns =>
    [.sign '('] ++ List.intercalate [.sign ','] (tokensParams params) ++ [.sign ')', .arrow] ++
      tokens returns
  | .reference name => [.word name]
  | .generic name args =>
    [.word name] ++ [.sign '<'] ++ List.intercalate [.sign ','] (tokensAll args) ++ [.sign '>']
  | .query name => [.word queryWord] ++ [.word name]
  | .documented _ type => tokens type

/-- The tokens of several types. -/
def tokensAll : List TypeExpr → List (List Token)
  | [] => []
  | t :: ts => tokens t :: tokensAll ts

/-- The tokens of several types, some in parentheses. -/
def tokensGrouped (isGrouped : TypeExpr → Bool) : List TypeExpr → List (List Token)
  | [] => []
  | t :: ts => grouped (isGrouped t) (tokens t) :: tokensGrouped isGrouped ts

/-- The tokens of parameters. -/
def tokensParams : List (Param TypeExpr) → List (List Token)
  | [] => []
  | p :: ps => tokensParam p :: tokensParams ps

/-- The tokens of a parameter. -/
def tokensParam : Param TypeExpr → List Token
  | ⟨name, type, optional, rest⟩ =>
    optionally rest .ellipsis ++ [.word name] ++ optionally optional (.sign '?') ++ [.sign ':'] ++
      tokens type

/-- The tokens of members. -/
def tokensMembers : List (Member TypeExpr) → List (List Token)
  | [] => []
  | m :: ms => tokensMember m :: tokensMembers ms

/-- The tokens of a member. -/
def tokensMember : Member TypeExpr → List Token
  | .property name type optional _ =>
    [keyToken name] ++ optionally optional (.sign '?') ++ [.sign ':'] ++ tokens type
  | .method name params returns _ =>
    [keyToken name] ++ [.sign '('] ++ List.intercalate [.sign ','] (tokensParams params) ++
      [.sign ')', .sign ':'] ++ tokens returns
  | .index key value =>
    [.sign '['] ++ [.word key] ++ [.sign ':', .word keyWord, .sign ']', .sign ':'] ++ tokens value

end

end TypeExpr

/-! ## Names -/

namespace Reading

theorem isWordChar_of_mem_intercalate {parts : List (List Char)}
    (h : ∀ part ∈ parts, ∀ d ∈ part, isWordChar d = true) :
    ∀ d ∈ List.intercalate ['.'] parts, isWordChar d = true := by
  induction parts with
  | nil => exact fun d hd => absurd hd List.not_mem_nil
  | cons part parts ih =>
    have hrest := ih fun other hother => h other (List.mem_cons_of_mem part hother)
    have hpart := h part List.mem_cons_self
    cases parts with
    | nil => rwa [List.intercalate_singleton]
    | cons next parts =>
      rw [List.intercalate_cons_cons]
      intro d hd
      rcases List.mem_append.mp hd with hd | hd
      · rcases List.mem_append.mp hd with hd | hd
        · exact hpart d hd
        · rw [List.mem_singleton.mp hd]
          rfl
      · exact hrest d hd

/-- A text of identifiers with dots between them is one word. -/
theorem reads_dotted {name : String} (h : isDotted name = true) : Reads name [.word name] := by
  have hparts : ∀ part ∈ name.toList.splitOn '.', ∃ c rest, part = c :: rest ∧
      Text.isIdentifierStart c = true ∧ ∀ d ∈ part, isWordChar d = true := by
    intro part hpart
    have hidentifier := List.all_eq_true.mp h part hpart
    simp only [Text.isIdentifier, String.toList_ofList] at hidentifier
    split at hidentifier
    · cases hidentifier
    next c rest =>
      rw [Bool.and_eq_true, List.all_eq_true] at hidentifier
      refine ⟨c, rest, rfl, hidentifier.1, fun d hd => ?_⟩
      rw [isWordChar, hidentifier.2 d hd]
      rfl
  have hname : List.intercalate ['.'] (name.toList.splitOn '.') = name.toList :=
    List.intercalate_splitOn '.'
  have hchars : ∀ d ∈ name.toList, isWordChar d = true := by
    intro d hd
    rw [← hname] at hd
    refine isWordChar_of_mem_intercalate (fun part hpart => ?_) d hd
    obtain ⟨-, -, -, -, hword⟩ := hparts part hpart
    exact hword
  obtain ⟨first, others, hsplit⟩ := List.exists_cons_of_ne_nil (List.splitOn_ne_nil '.' name.toList)
  obtain ⟨c, rest, rfl, hc, -⟩ := hparts first (by rw [hsplit]; exact List.mem_cons_self)
  obtain ⟨behind, hbehind⟩ : ∃ behind, name.toList = c :: behind := by
    rw [← hname, hsplit]
    cases others with
    | nil => exact ⟨rest, List.intercalate_singleton⟩
    | cons second others => exact ⟨_, by rw [List.intercalate_cons_cons]; rfl⟩
  exact reads_word hbehind hc fun d hd => hchars d (hbehind ▸ List.mem_cons_of_mem c hd)

theorem reads_name {name : String} (h : isName name = true) : Reads name [.word name] :=
  reads_dotted (Bool.and_eq_true_iff.mp h).1

theorem reads_identifier {name : String} (h : Text.isIdentifier name = true) :
    Reads name [.word name] := by
  unfold Text.isIdentifier at h
  split at h
  · cases h
  next c rest hname =>
    rw [Bool.and_eq_true, List.all_eq_true] at h
    refine reads_word hname h.1 fun d hd => ?_
    rw [isWordChar, h.2 d (List.mem_cons_of_mem c hd)]
    rfl

theorem reads_propertyKey (name : String) : Reads (Text.propertyKey name) [keyToken name] := by
  unfold Text.propertyKey keyToken
  cases hform : Text.keyForm name with
  | bare =>
    refine reads_identifier ?_
    unfold Text.keyForm at hform
    split at hform
    · assumption
    · cases hform
  | quoted => exact (closes_stringLiteral name).reads

end Reading

/-! ## Texts -/

theorem Keyword.reads_write (k : Keyword) : Reads k.write [.word k.write] := by
  cases k <;> exact reads_identifier (by decide +kernel)

theorem Literal.reads_write {l : Literal} (h : l.isExact = true) : Reads l.write l.tokens := by
  cases l with
  | string value => exact (closes_stringLiteral value).reads
  | integer value =>
    cases value with
    | ofNat n => exact reads_numeral n
    | negSucc n =>
      have hminus : Closes "-" [.sign '-'] := fun _ => rfl
      exact hminus.append_reads (reads_numeral (n + 1))
  | number value => cases h
  | bool on => cases on <;> exact reads_identifier (by decide +kernel)

theorem reads_group (on : Bool) {text : String} {ts : List Token} (h : Reads text ts) :
    Reads (TypeExpr.group on text) (grouped on ts) := by
  cases on with
  | false => exact h
  | true =>
    have hopen : Closes "(" [.sign '('] := fun _ => rfl
    have hclose : Seals ")" [.sign ')'] := ⟨fun _ => rfl, rfl⟩
    exact ((hopen.append_reads h).append_closes hclose).reads

/-- A question mark behind a name goes with it. -/
theorem reads_question (optional : Bool) {name : String} {ts : List Token} (h : Reads name ts) :
    Reads (name ++ TypeExpr.mark optional "?") (ts ++ optionally optional (.sign '?')) := by
  cases optional with
  | false =>
    show Reads (name ++ "") (ts ++ [])
    rw [String.append_empty, List.append_nil]
    exact h
  | true =>
    have hquestion : Seals "?" [.sign '?'] := ⟨fun _ => rfl, rfl⟩
    exact (h.append_closes hquestion).reads

theorem seals_comma : Seals ", " [.sign ','] := ⟨fun _ => rfl, rfl⟩

theorem seals_colon : Seals ": " [.sign ':'] := ⟨fun _ => rfl, rfl⟩

theorem seals_parenthesis : Seals ")" [.sign ')'] := ⟨fun _ => rfl, rfl⟩

namespace TypeExpr

variable {mayCall : String → Bool}

mutual

/-- The text of a legible type is read as its tokens. -/
theorem reads_write : ∀ t : TypeExpr, t.isLegible mayCall = true → Reads t.write t.tokens
  | .keyword k, _ => k.reads_write
  | .literal _, h => Literal.reads_write h
  | .array item, h => by
    have hopen : Seals "[" [.sign '['] := ⟨fun _ => rfl, rfl⟩
    have hclose : Closes "]" [.sign ']'] := fun _ => rfl
    exact ((reads_group _ (reads_write item h)).append_closes (hopen.append hclose)).reads
  | .union [], _ => Keyword.never.reads_write
  | .union (t :: ts), h =>
    have hbar : Seals " | " [.sign '|'] := ⟨fun _ => rfl, rfl⟩
    reads_intercalate hbar (reads_writeGrouped _ (t :: ts) h)
  | .intersection ts, h =>
    have hamp : Seals " & " [.sign '&'] := ⟨fun _ => rfl, rfl⟩
    reads_intercalate hamp (reads_writeGrouped _ ts (Bool.and_eq_true_iff.mp h).2)
  | .object [], _ => by
    have hopen : Closes "\x7b" [.sign '\x7b'] := fun _ => rfl
    have hclose : Closes "\x7d" [.sign '\x7d'] := fun _ => rfl
    exact (hopen.append hclose).reads
  | .object (m :: ms), h => by
    have hopen : Closes "\x7b " [.sign '\x7b'] := fun _ => rfl
    have hseparator : Seals "; " [.sign ';'] := ⟨fun _ => rfl, rfl⟩
    have hclose : Seals " \x7d" [.sign '\x7d'] := ⟨fun _ => rfl, rfl⟩
    have hmembers := reads_intercalate hseparator (reads_writeMembers (m :: ms) h)
    exact ((hopen.append_reads hmembers).append_closes hclose).reads
  | .function params returns, h => by
    obtain ⟨hparams, hreturns⟩ := Bool.and_eq_true_iff.mp h
    have hopen : Closes "(" [.sign '('] := fun _ => rfl
    have harrow : Closes " => " [.arrow] := fun _ => rfl
    have hlist := reads_intercalate seals_comma (reads_writeParams params hparams)
    exact ((hopen.append_reads hlist).append_closes (seals_parenthesis.append harrow)).append_reads
      (reads_write returns hreturns)
  | .reference _, h => reads_name h
  | .generic name args, h => by
    obtain ⟨hname, hargs⟩ := Bool.and_eq_true_iff.mp h
    have hopen : Seals "<" [.sign '<'] := ⟨fun _ => rfl, rfl⟩
    have hclose : Seals ">" [.sign '>'] := ⟨fun _ => rfl, rfl⟩
    have hlist := reads_intercalate seals_comma (reads_writeAll args hargs)
    exact ((((reads_name hname).append_closes hopen).append_reads hlist).append_closes hclose).reads
  | .query name, h => by
    have hblank : Seals " " [] := ⟨fun before => by rw [List.append_nil]; rfl, rfl⟩
    have hword : Reads "typeof" [.word queryWord] := reads_identifier (by decide +kernel)
    exact (hword.append_closes hblank).append_reads (reads_name h)
  | .documented doc (.literal l), h => by
    obtain ⟨hdoc, hl⟩ := Bool.and_eq_true_iff.mp h
    have hliteral := Literal.reads_write hl
    have hblank : Closes " " [] := fun before => by rw [List.append_nil]; rfl
    unfold write
    split
    next comment hcomment =>
      exact ((doc.closes_inlineText hdoc hcomment).append hblank).append_reads hliteral
    · exact hliteral

theorem reads_writeAll : ∀ types : List TypeExpr, areLegible mayCall types = true →
    List.Forall₂ Reads (writeAll types) (tokensAll types)
  | [], _ => .nil
  | t :: ts, h =>
    have ⟨ht, hts⟩ := Bool.and_eq_true_iff.mp h
    .cons (reads_write t ht) (reads_writeAll ts hts)

theorem reads_writeGrouped (isGrouped : TypeExpr → Bool) : ∀ types : List TypeExpr,
    areLegible mayCall types = true →
      List.Forall₂ Reads (writeGrouped isGrouped types) (tokensGrouped isGrouped types)
  | [], _ => .nil
  | t :: ts, h =>
    have ⟨ht, hts⟩ := Bool.and_eq_true_iff.mp h
    .cons (reads_group _ (reads_write t ht)) (reads_writeGrouped isGrouped ts hts)

theorem reads_writeParams : ∀ params : List (Param TypeExpr), areLegibleParams mayCall params = true →
    List.Forall₂ Reads (writeParams params) (tokensParams params)
  | [], _ => .nil
  | p :: ps, h =>
    have ⟨hp, hps⟩ := Bool.and_eq_true_iff.mp h
    .cons (reads_writeParam p hp) (reads_writeParams ps hps)

theorem reads_writeParam : ∀ p : Param TypeExpr, isLegibleParam mayCall p = true →
    Reads (writeParam p) (tokensParam p)
  | ⟨name, type, optional, rest⟩, h => by
    obtain ⟨hname, htype⟩ := Bool.and_eq_true_iff.mp h
    have hdots : Closes (mark rest "...") (optionally rest .ellipsis) := by
      cases rest with
      | false => exact fun before => Lexer.mk.injEq .. ▸ ⟨(List.append_nil before).symm, rfl⟩
      | true => exact fun _ => rfl
    have hhead := reads_question optional (hdots.append_reads (reads_name hname))
    exact (hhead.append_closes seals_colon).append_reads (reads_write type htype)

theorem reads_writeMembers : ∀ members : List (Member TypeExpr), areLegibleMembers mayCall members = true →
    List.Forall₂ Reads (writeMembers members) (tokensMembers members)
  | [], _ => .nil
  | m :: ms, h =>
    have ⟨hm, hms⟩ := Bool.and_eq_true_iff.mp h
    .cons (reads_writeMember m hm) (reads_writeMembers ms hms)

theorem reads_writeMember : ∀ m : Member TypeExpr, isLegibleMember mayCall m = true →
    Reads (writeMember m) (tokensMember m)
  | .property name type optional _, h =>
    ((reads_question optional (reads_propertyKey name)).append_closes seals_colon).append_reads
      (reads_write type h)
  | .method name params returns _, h => by
    obtain ⟨hparams, hreturns⟩ := Bool.and_eq_true_iff.mp (Bool.and_eq_true_iff.mp h).2
    have hopen : Seals "(" [.sign '('] := ⟨fun _ => rfl, rfl⟩
    have hlist := reads_intercalate seals_comma (reads_writeParams params hparams)
    exact ((((reads_propertyKey name).append_closes hopen).append_reads hlist).append_closes
      (seals_parenthesis.append seals_colon.closes)).append_reads (reads_write returns hreturns)
  | .index key value, h => by
    obtain ⟨hkey, hvalue⟩ := Bool.and_eq_true_iff.mp h
    have hopen : Closes "[" [.sign '['] := fun _ => rfl
    have hword : Reads "string" [.word keyWord] := reads_identifier (by decide +kernel)
    have hclose : Seals "]" [.sign ']'] := ⟨fun _ => rfl, rfl⟩
    have htype := ((seals_colon.append (hword.append_closes hclose)).append seals_colon.closes)
    exact ((hopen.append_reads (reads_name hkey)).append_closes htype).append_reads
      (reads_write value hvalue)

end

end TypeExpr

end SchemaTypings
