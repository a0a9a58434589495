import SchemaTypings.Proofs.Reading.Phrases

/-!
# Written types are read back

The printer puts an operand in parentheses by looking at its constructor alone. That is enough: the reader,
who knows only how tightly the signs bind, gets the type back up to what a text cannot show. A method called
`new` is the one thing that is not read back, for a reader takes it for a construct signature.

* `Knows.recovers_unit`, `Knows.recovers_operand`, `Knows.recovers_term`, `Knows.recovers_sum`: what is read
  back at each level of precedence, tightest first.
* `knows_typeWithin`: types are read back however deep they are nested.
* `TypeExpr.parse?_write`: a legible type without a method called `new` is read back.
* `TypeExpr.parse?_write_construct`: one with such a method is not.
-/

namespace SchemaTypings

namespace Reading

variable {inner : Parser TypeExpr} {most : Nat}

/-! ## Types that need no parentheses -/

theorem meaning?_of_isName {word : String} (h : isName word = true) : meaning? word = none := by
  have hkeywords : ∀ entry ∈ meanings, keywords.contains entry.1 = true := by decide +kernel
  have hout : keywords.contains word = false := by simpa using (Bool.and_eq_true_iff.mp h).2
  refine List.lookup_eq_none_iff.mpr fun entry hentry => bne_iff_ne.mpr ?_
  rintro rfl
  rw [hkeywords entry hentry] at hout
  cases hout

theorem primary_word {word : String} {t : TypeExpr} (h : meaning? word = some t) (rest : List Token) :
    primary inner (.word word :: rest) = some (t, rest) := by
  simp only [primary, worded, h]

theorem primary_literal {l : Literal} (h : l.isExact = true) (rest : List Token) :
    primary inner (l.tokens ++ rest) = some (.literal l, rest) := by
  rcases l with _ | ⟨_ | _⟩ | _ | ⟨_ | _⟩
  · rfl
  · rfl
  · rfl
  · cases h
  · exact primary_word rfl rest
  · exact primary_word rfl rest

theorem primary_reference {name : String} (h : isName name = true) {rest : List Token}
    (hr : Stops ['<'] rest) : primary inner (.word name :: rest) = some (.reference name, rest) := by
  have hmeaning := meaning?_of_isName h
  show worded inner name rest = some (.reference name, rest)
  rcases rest with _ | ⟨t, rest⟩
  · simp only [worded, hmeaning, h, if_true]
  · obtain ⟨c, rfl, hc⟩ := hr t rfl
    simp only [worded, hmeaning]
    split
    next heq => cases heq
    next heq =>
      cases heq
      exact absurd (List.mem_singleton_self '<') hc
    · exact if_pos h

theorem primary_query {name : String} (h : isName name = true) (rest : List Token) :
    primary inner (.word queryWord :: .word name :: rest) = some (.query name, rest) := by
  have hquery : meaning? queryWord = none := by with_unfolding_all rfl
  simp only [primary, worded, hquery, h, Bool.and_true, decide_true, if_true]

/-! ## Brackets -/

/-- A parser takes the tokens and puts all the brackets behind them around what it takes. -/
def TakesBrackets (p : Parser TypeExpr) (ts : List Token) (t : TypeExpr) : Prop :=
  ∃ r, (∀ rest, Stops ['<'] rest → p (ts ++ rest) = some (withBrackets r rest)) ∧ r.normal = t.normal

theorem takesBrackets_of_recovers {ts : List Token} {t : TypeExpr}
    (h : Recovers TypeExpr.normal (primary inner) ['<'] ts t) : TakesBrackets (postfixType inner) ts t := by
  obtain ⟨r, hr, hnormal⟩ := h
  refine ⟨r, fun rest hrest => ?_, hnormal⟩
  simp only [postfixType, hr rest hrest, Option.bind_eq_bind, Option.bind_some]

theorem withBrackets_eq {rest : List Token} (h : Stops ['[', '<'] rest) (t : TypeExpr) :
    withBrackets t rest = (t, rest) := by
  rcases rest with _ | ⟨next, rest⟩
  · rfl
  · obtain ⟨c, rfl, hc⟩ := h next rfl
    unfold withBrackets
    split
    next heq =>
      cases heq
      exact absurd List.mem_cons_self hc
    · rfl

theorem TakesBrackets.recovers {p : Parser TypeExpr} {ts : List Token} {t : TypeExpr}
    (h : TakesBrackets p ts t) : Recovers TypeExpr.normal p ['[', '<'] ts t := by
  obtain ⟨r, hr, hnormal⟩ := h
  refine ⟨r, fun rest hrest => ?_, hnormal⟩
  rw [hr rest (hrest.mono (List.subset_cons_self '[' ['<'])), withBrackets_eq hrest]

/-! ## Junctions and functions -/

/-- What is recovered of the operands is recovered of the junction. -/
theorem recovers_junction {j : Junction} {sign : Char} (hsign : junctionSign j = .sign sign)
    {operand : Parser TypeExpr} {stops : List Char} (hs : sign ∉ stops) {t : TypeExpr}
    (h : ∀ u ∈ j.operands t, Recovers TypeExpr.normal operand stops (TypeExpr.tokensIn j u) u) :
    Recovers TypeExpr.normal (junction j operand) (sign :: stops) (TypeExpr.tokensIn j t) t := by
  obtain ⟨taken, htaken, himages⟩ := exists_parses_all h
  refine ⟨j.joined taken, fun rest hrest => ?_, j.normal_joined_operands himages⟩
  have hne : (j.operands t).map (TypeExpr.tokensIn j) ≠ [] := by
    simpa using TypeExpr.operands_ne_nil j t
  have hlist := parses_separated hs htaken hne rest hrest
  rw [← hsign] at hlist
  rw [TypeExpr.tokensIn_eq_intercalate]
  simp only [junction, hlist, Option.bind_eq_bind, Option.bind_some]

/-- A function type begins like one, with or without parameters. -/
theorem beginFunction_function (ps : List (Param TypeExpr)) (returns : TypeExpr) (rest : List Token) :
    beginFunction ((TypeExpr.function ps returns).tokens ++ rest) = true := by
  cases ps with
  | nil => rfl
  | cons p ps =>
    obtain ⟨name, type, optional, dots⟩ := p
    cases ps <;> cases optional <;> cases dots <;> rfl

/-! ## Levels of precedence -/

/-- Types that need no parentheses at all, arrays aside: neither junctions nor functions. The empty union is
written as a word. -/
def isUnit : TypeExpr → Bool
  | .union (_ :: _) | .intersection _ | .function _ _ => false
  | _ => true

section Levels

variable (hinner : Knows (· != constructWord) inner most)

include hinner

theorem Knows.recovers_unit (t : TypeExpr) (ht : t.isLegible (· != constructWord) = true)
    (hunit : isUnit t = true) (harray : ∀ item, t ≠ .array item) (hlength : t.tokens.length ≤ most) :
    Recovers TypeExpr.normal (primary inner) ['<'] t.tokens t := by
  cases t with
  | keyword k => exact ⟨.keyword k, fun rest _ => primary_word (by cases k <;> rfl) rest, rfl⟩
  | literal l => exact ⟨.literal l, fun rest _ => primary_literal ht rest, rfl⟩
  | array item => exact absurd rfl (harray item)
  | union types =>
    cases types with
    | nil => exact ⟨.keyword .never, fun rest _ => primary_word rfl rest, rfl⟩
    | cons _ _ => cases hunit
  | intersection _ => cases hunit
  | object members =>
    have hmembers : (List.intercalate [.sign ';'] (TypeExpr.tokensMembers members)).length ≤ most := by
      simp [TypeExpr.tokens] at hlength
      omega
    obtain ⟨taken, htaken, himages⟩ := hinner.recovers_members ht hmembers
    refine ⟨.object taken, fun rest _ => ?_, by rw [TypeExpr.normal, TypeExpr.normal, himages]⟩
    simp [TypeExpr.tokens, primary, htaken]
  | function _ _ => cases hunit
  | reference name => exact ⟨.reference name, fun rest hr => primary_reference ht hr, rfl⟩
  | generic name args =>
    obtain ⟨hname, hargs⟩ := Bool.and_eq_true_iff.mp ht
    have hshort : (List.intercalate [.sign ','] (TypeExpr.tokensAll args)).length < most := by
      simp [TypeExpr.tokens] at hlength
      omega
    obtain ⟨taken, htaken, himages⟩ := hinner.recovers_args hargs hshort
    refine ⟨.generic name taken, fun rest _ => ?_, by rw [TypeExpr.normal, TypeExpr.normal, himages]⟩
    simp [TypeExpr.tokens, primary, worded, meaning?_of_isName hname, hname, htaken]
  | query name => exact ⟨.query name, fun rest _ => primary_query ht rest, rfl⟩
  | documented doc type =>
    cases type with
    | literal l =>
      exact ⟨.literal l, fun rest _ => primary_literal (Bool.and_eq_true_iff.mp ht).2 rest, rfl⟩
    | _ => cases ht

/-- Parentheses leave no trace. -/
theorem Knows.recovers_group (t : TypeExpr) (ht : t.isLegible (· != constructWord) = true)
    (hlength : (grouped true t.tokens).length ≤ most) :
    Recovers TypeExpr.normal (primary inner) ['<'] (grouped true t.tokens) t := by
  have hshort : t.tokens.length < most := by
    simp [grouped] at hlength
    omega
  obtain ⟨r, hr, hnormal⟩ := hinner t ht hshort
  refine ⟨r, fun rest _ => ?_, hnormal⟩
  have hread := hr (.sign ')' :: rest) (stops_sign (by decide) rest)
  simp [grouped, primary, hread]

/-- An array is read item first, and the brackets behind it may be those of another array. -/
theorem Knows.takesBrackets : ∀ t : TypeExpr, t.isLegible (· != constructWord) = true →
    isUnit t = true → t.tokens.length ≤ most → TakesBrackets (postfixType inner) t.tokens t
  | .array item, ht, _, hlength => by
    have hshort : (grouped item.groupedInArray item.tokens).length ≤ most := by
      simp [TypeExpr.tokens] at hlength
      omega
    have hitem : TakesBrackets (postfixType inner) (grouped item.groupedInArray item.tokens) item := by
      cases hgroup : item.groupedInArray with
      | false =>
        rw [hgroup] at hshort
        have hunit : isUnit item = true := by cases item <;> first | rfl | cases hgroup
        exact Knows.takesBrackets item ht hunit hshort
      | true =>
        rw [hgroup] at hshort
        exact takesBrackets_of_recovers (hinner.recovers_group item ht hshort)
    obtain ⟨r, hr, hnormal⟩ := hitem
    refine ⟨.array r, fun rest _ => ?_, by rw [TypeExpr.normal, TypeExpr.normal, hnormal]⟩
    rw [TypeExpr.tokens, List.append_assoc]
    exact hr _ (stops_sign (by decide) (.sign ']' :: rest))
  | .keyword _, ht, hunit, hlength | .literal _, ht, hunit, hlength | .union _, ht, hunit, hlength
  | .intersection _, ht, hunit, hlength | .object _, ht, hunit, hlength
  | .function _ _, ht, hunit, hlength | .reference _, ht, hunit, hlength
  | .generic _ _, ht, hunit, hlength | .query _, ht, hunit, hlength
  | .documented _ _, ht, hunit, hlength =>
    takesBrackets_of_recovers (hinner.recovers_unit _ ht hunit (fun _ h => nomatch h) hlength)

/-- An operand of an intersection. -/
theorem Knows.recovers_operand (t : TypeExpr) (ht : t.isLegible (· != constructWord) = true)
    (hapart : TypeExpr.IsApart .intersection t)
    (hlength : (TypeExpr.tokensIn .intersection t).length ≤ most) :
    Recovers TypeExpr.normal (postfixType inner) ['[', '<'] (TypeExpr.tokensIn .intersection t) t := by
  unfold TypeExpr.tokensIn at *
  cases hgroup : TypeExpr.groupedIn .intersection t with
  | true =>
    rw [hgroup] at hlength
    exact (takesBrackets_of_recovers (hinner.recovers_group t ht hlength)).recovers
  | false =>
    rw [hgroup] at hlength
    have hunit : isUnit t = true := by
      cases t with
      | union _ => cases hgroup
      | intersection types =>
        rw [hapart types rfl] at ht
        cases ht
      | function _ _ => cases hgroup
      | _ => rfl
    exact (hinner.takesBrackets t ht hunit hlength).recovers

/-- An operand of a union. -/
theorem Knows.recovers_term (t : TypeExpr) (ht : t.isLegible (· != constructWord) = true)
    (hapart : TypeExpr.IsApart .union t) (hlength : (TypeExpr.tokensIn .union t).length ≤ most) :
    Recovers TypeExpr.normal (junction .intersection (postfixType inner)) ['&', '[', '<']
      (TypeExpr.tokensIn .union t) t := by
  have hother : ∀ u : TypeExpr, u.isLegible (· != constructWord) = true →
      TypeExpr.tokensIn .union u = TypeExpr.tokensIn .intersection u →
        (TypeExpr.tokensIn .union u).length ≤ most →
          Recovers TypeExpr.normal (junction .intersection (postfixType inner)) ['&', '[', '<']
            (TypeExpr.tokensIn .union u) u := by
    intro u hu hsame hshort
    rw [hsame] at hshort ⊢
    refine recovers_junction rfl (by decide) fun v hv => ?_
    exact hinner.recovers_operand v (TypeExpr.isLegible_of_mem_operands .intersection u hu v hv)
      (TypeExpr.isApart_of_mem_operands .intersection u v hv)
      (Nat.le_trans (TypeExpr.length_tokensIn_le hv) hshort)
  cases t with
  | union types =>
    -- an empty union is written as a word, and this word needs no parentheses
    cases hapart types rfl
    obtain ⟨r, hr, hnormal⟩ := hother (.keyword .never) rfl rfl hlength
    exact ⟨r, hr, hnormal⟩
  | _ => exact hother _ ht rfl hlength

/-- A type that is not a function. -/
theorem Knows.recovers_sum (t : TypeExpr) (ht : t.isLegible (· != constructWord) = true)
    (hf : ∀ params returns, t ≠ .function params returns) (hlength : t.tokens.length ≤ most) :
    Recovers TypeExpr.normal (junction .union (junction .intersection (postfixType inner))) typeStops
      t.tokens t := by
  have hself : TypeExpr.tokensIn .union t = t.tokens := by
    cases t with
    | function params returns => exact absurd rfl (hf params returns)
    | _ => rfl
  rw [← hself] at hlength ⊢
  refine recovers_junction rfl (by decide) fun u hu => ?_
  exact hinner.recovers_term u (TypeExpr.isLegible_of_mem_operands .union t ht u hu)
    (TypeExpr.isApart_of_mem_operands .union t u hu)
    (Nat.le_trans (TypeExpr.length_tokensIn_le hu) hlength)

theorem Knows.recovers_function {ps : List (Param TypeExpr)} {returns : TypeExpr}
    (ht : (TypeExpr.function ps returns).isLegible (· != constructWord) = true)
    (hlength : (TypeExpr.function ps returns).tokens.length ≤ most) :
    Recovers TypeExpr.normal (functionType inner) typeStops (TypeExpr.function ps returns).tokens
      (.function ps returns) := by
  obtain ⟨hps, hreturns⟩ := Bool.and_eq_true_iff.mp ht
  simp [TypeExpr.tokens] at hlength
  obtain ⟨r, hr, hnormal⟩ := hinner returns hreturns (by omega)
  obtain ⟨taken, htaken, himages⟩ := hinner.recovers_params hps (by omega)
  refine ⟨.function taken r, fun rest hrest => ?_, ?_⟩
  · have hread := hr rest hrest
    simp [TypeExpr.tokens, functionType, htaken, hread]
  · rw [TypeExpr.normal, TypeExpr.normal, himages, hnormal]

end Levels

/-! ## All types -/

theorem Knows.typeOver (hinner : Knows (· != constructWord) inner most) :
    Knows (· != constructWord) (typeOver inner) (most + 1) := by
  intro t ht hlength
  have hshort : t.tokens.length ≤ most := Nat.le_of_lt_succ hlength
  by_cases hf : ∃ params returns, t = .function params returns
  · obtain ⟨ps, returns, rfl⟩ := hf
    obtain ⟨r, hr, hnormal⟩ := hinner.recovers_function ht hshort
    refine ⟨r, fun rest hrest => ?_, hnormal⟩
    rw [Reading.typeOver, if_pos (beginFunction_function ps returns rest), hr rest hrest]
  · have hother : ∀ params returns, t ≠ .function params returns :=
      fun params returns heq => hf ⟨params, returns, heq⟩
    obtain ⟨r, hr, hnormal⟩ := hinner.recovers_sum t ht hother hshort
    refine ⟨r, fun rest hrest => ?_, hnormal⟩
    have hbegin : ¬beginFunction (t.tokens ++ rest) = true := by
      rw [TypeExpr.not_beginFunction_tokens t ht hother rest]
      exact Bool.false_ne_true
    rw [Reading.typeOver, if_neg hbegin, hr rest hrest]

/-- Types are read back however deep they are nested: one level takes a token at least. -/
theorem knows_typeWithin (levels : Nat) : Knows (· != constructWord) (typeWithin levels) levels := by
  induction levels with
  | zero => exact fun t _ hlength => absurd hlength (Nat.not_lt_zero _)
  | succ levels ih => exact ih.typeOver

end Reading

namespace TypeExpr

open Reading

/-- **The printer respects precedence**: the text of a type is read back as this type, up to comments and the
nesting of unions and intersections. Names are names, intersections are not empty, comments are descriptions
of literals, numbers are integers, and no method is called `new`. -/
theorem parse?_write (t : TypeExpr) (h : t.isLegible (· != "new") = true) :
    ∃ r, parse? t.write = some r ∧ r.normal = t.normal := by
  obtain ⟨r, hr, hnormal⟩ := knows_typeWithin (t.tokens.length + 1) t h (Nat.lt_succ_self _)
  refine ⟨r, ?_, hnormal⟩
  have hread := hr [] (stops_nil typeStops)
  rw [List.append_nil] at hread
  have htokens : lex? t.write = some t.tokens := lex?_of_reads (reads_write t h)
  simp only [parse?, htokens, hread, Option.bind_eq_bind, Option.bind_some]

/-- A union of an array of functions and an intersection with a union in it, the latter in a union of one. -/
theorem parse?_write_nested :
    let t : TypeExpr := .union [.array (.function [⟨"x", .keyword .string, true, false⟩] (.keyword .void)),
      .union [.intersection [.union [.reference "a.B", .union []], .object [.method "new-item" [] .any .none]]]]
    ∃ r, parse? t.write = some r ∧ r.normal = t.normal :=
  parse?_write _ (by decide +kernel)

/-- **A method called `new` is not read back**: without quotes around its key it is written like a construct
signature, and no type expression has one. -/
theorem parse?_write_construct :
    let t : TypeExpr := .object [.method "new" [] (.keyword .void) .none]
    t.isLegible (fun _ => true) = true ∧ ¬∃ r, parse? t.write = some r ∧ r.normal = t.normal := by
  refine ⟨rfl, ?_⟩
  rintro ⟨r, hr, -⟩
  have hnone : parse? (TypeExpr.object [.method "new" [] (.keyword .void) .none]).write = none := by
    decide +kernel
  rw [hnone] at hr
  cases hr

end TypeExpr

end SchemaTypings
