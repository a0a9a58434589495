import SchemaTypings.Declaration.Doc
import SchemaTypings.Proofs.Reading.Lexer

/-!
# Descriptions stay in their comments

The last pass over a description breaks up every end of a comment, and cutting the outcome into trimmed
lines cannot put one together again. A comment that shows a description alone is therefore over where it is
meant to be, and nothing of it is read as a token.

* `not_commentEnd_plainMarkup`: no end of a comment is left in a description.
* `closes_inlineText`: a description in front of a type is a comment.
-/

namespace SchemaTypings.Text

/-! ## The last pass -/

theorem replaceMarks_commentEnd (rest : List Char) :
    replaceMarks commentEnd ('*' :: '/' :: rest) =
      '*' :: '\\' :: '/' :: replaceMarks commentEnd rest := by
  have hmark : commentEnd ('*' :: '/' :: rest) = some (['*', '\\', '/'], 2) := by
    simp [commentEnd, anyOf, dropLead?]
  rw [replaceMarks, replaceMarksFrom, hmark]
  rfl

theorem replaceMarks_of_ne {c : Char} {rest : List Char} (h : c = '*' → rest.head? ≠ some '/') :
    replaceMarks commentEnd (c :: rest) = c :: replaceMarks commentEnd rest := by
  have hmark : commentEnd (c :: rest) = none := by
    have hlead : '*' = c → ¬['/'] <+: rest := by
      rintro rfl ⟨behind, rfl⟩
      exact h rfl rfl
    simpa [commentEnd, anyOf, dropLead?] using hlead
  rw [replaceMarks, replaceMarksFrom, hmark]
  rfl

/-- The outcome begins with a slash only if the text does. -/
theorem head?_replaceMarks {text : List Char}
    (h : (replaceMarks commentEnd text).head? = some '/') : text.head? = some '/' := by
  cases text with
  | nil => cases h
  | cons c rest =>
    by_cases hmark : c = '*' → rest.head? ≠ some '/'
    · rw [replaceMarks_of_ne hmark] at h
      exact h
    · push Not at hmark
      obtain ⟨rfl, hrest⟩ := hmark
      obtain ⟨behind, rfl⟩ := List.head?_eq_some_iff.mp hrest
      rw [replaceMarks_commentEnd] at h
      cases h

/-- No end of a comment is left, and none comes about. -/
theorem not_commentEnd_replaceMarks : ∀ text : List Char,
    ¬Reading.commentEnd <:+: replaceMarks commentEnd text
  | [] => fun h => absurd h.length_le (by decide)
  | [c] => by
    intro h
    have hlength := h.length_le
    rw [replaceMarks_of_ne (by simp)] at hlength
    exact absurd hlength (Nat.not_succ_le_self 1)
  | c :: d :: rest => by
    intro h
    by_cases hmark : c = '*' → d ≠ '/'
    · rw [replaceMarks_of_ne (by simpa using hmark)] at h
      rcases List.infix_cons_iff.mp h with hprefix | hwithin
      · obtain ⟨behind, hbehind⟩ := hprefix
        obtain ⟨rfl, hrest⟩ := List.cons.inj hbehind
        have hhead := head?_replaceMarks (congrArg List.head? hrest.symm)
        exact hmark rfl (Option.some.inj hhead)
      · exact not_commentEnd_replaceMarks (d :: rest) hwithin
    · push Not at hmark
      obtain ⟨rfl, rfl⟩ := hmark
      rw [replaceMarks_commentEnd] at h
      have hrest := not_commentEnd_replaceMarks rest
      simp [Reading.commentEnd, List.infix_cons_iff, List.cons_prefix_cons] at h hrest
      exact hrest h

theorem not_commentEnd_plainMarkup (description : String) :
    ¬Reading.commentEnd <:+: (plainMarkup description).toList := by
  rw [plainMarkup, String.toList_ofList]
  exact not_commentEnd_replaceMarks _

/-! ## Lines -/

theorem dropReturn_isInfix (line : List Char) : dropReturn line <:+: line := by
  unfold dropReturn
  split
  · exact (List.dropLast_prefix line).isInfix
  · exact List.infix_rfl

theorem infix_of_mem_linesFrom {begun text line : List Char} (h : line ∈ linesFrom begun text) :
    line <:+: begun.reverse ++ text := by
  induction text generalizing begun with
  | nil =>
    cases begun with
    | nil => cases h
    | cons c begun =>
      rw [List.append_nil]
      obtain rfl := List.mem_singleton.mp h
      exact List.infix_rfl
  | cons c rest ih =>
    have hsplit : begun.reverse ++ c :: rest = (c :: begun).reverse ++ rest := by simp
    by_cases hc : c = '\n'
    · have hlines : linesFrom begun (c :: rest) = dropReturn begun.reverse :: linesFrom [] rest := by
        cases begun <;> simp [linesFrom, hc]
      rw [hlines] at h
      rcases List.mem_cons.mp h with rfl | h
      · exact (dropReturn_isInfix _).trans (List.prefix_append _ _).isInfix
      · rw [hsplit]
        exact (ih h).trans (List.suffix_append _ _).isInfix
    · have hlines : linesFrom begun (c :: rest) = linesFrom (c :: begun) rest := by
        cases begun <;> simp [linesFrom, hc]
      rw [hlines] at h
      rw [hsplit]
      exact ih h

theorem trimEnd_isInfix (s : String) : (trimEnd s).toList <:+: s.toList := by
  rw [trimEnd, String.toList_ofList]
  have hsuffix : s.toList.reverse.dropWhile isBlank <:+ s.toList.reverse := List.dropWhile_suffix _
  have hprefix := List.reverse_prefix.mpr hsuffix
  rw [List.reverse_reverse] at hprefix
  exact hprefix.isInfix

/-- A line of a text, trimmed, stands in the text. -/
theorem trimmed_infix {text line : String} (h : line ∈ (lines text).map trimEnd) :
    line.toList <:+: text.toList := by
  obtain ⟨whole, hwhole, rfl⟩ := List.mem_map.mp h
  obtain ⟨chars, hchars, rfl⟩ := List.mem_map.mp hwhole
  have hline := infix_of_mem_linesFrom hchars
  refine (trimEnd_isInfix _).trans ?_
  rw [String.toList_ofList]
  exact hline

end SchemaTypings.Text

/-! ## Comments in front of types -/

namespace SchemaTypings.DocComment

/-- Whether a comment shows nothing but a description. -/
def isDescription (doc : DocComment) : Bool := doc.params.isEmpty && doc.deprecated.isNone

/-- A description in front of a type is a comment, and no token. -/
theorem closes_inlineText {doc : DocComment} (h : doc.isDescription = true) {comment : String}
    (hc : doc.inlineText? = some comment) : Reading.Closes comment [] := by
  obtain ⟨description, params, deprecated⟩ := doc
  simp only [isDescription, Bool.and_eq_true, List.isEmpty_iff, Option.isNone_iff_eq_none] at h
  obtain ⟨rfl, rfl⟩ := h
  cases description with
  | none => cases hc
  | some text =>
    cases hc
    refine Reading.closes_comment fun line hline => ?_
    have hlines : line ∈ (Text.lines (Text.plainMarkup text)).map Text.trimEnd := by
      simpa [content] using hline
    exact fun hend => Text.not_commentEnd_plainMarkup text (hend.trans (Text.trimmed_infix hlines))

end SchemaTypings.DocComment
