import Mathlib.Data.List.Infix
import SchemaTypings.Declaration.Printer
import SchemaTypings.Proofs.Reading.Comments

/-!
# Documentation stays in its comment

Whatever a description, the text of a parameter or a deprecation note says, the comment that shows it ends where it
is meant to end: the end of a comment stands in the printed text once, at its end, and every further line begins
with the mark of a comment's line. The names of parameters are printed as they are, so they must neither end a
comment nor a line.

* `Text.Endless`: a text in which no comment ends; `Endless.append` is the only way in which two of them could
  make one.
* `IsBlock`, `IsRemark`: the shape of a comment on lines of its own, and in front of a type.
* `write_confined`: every comment has that shape, whatever its texts.
-/

namespace SchemaTypings

namespace Text

/-! ## Where comments end -/

/-- No comment ends in the text. -/
def Endless (text : List Char) : Prop := ¬Reading.commentEnd <:+: text

instance (text : List Char) : Decidable (Endless text) :=
  inferInstanceAs (Decidable (¬Reading.commentEnd <:+: text))

/-- The end of a comment stands in the text once, right in front of the rest. -/
def EndsOnce (text rest : List Char) : Prop :=
  (∃ front, text = front ++ Reading.commentEnd ++ rest) ∧
    ∀ before behind, text = before ++ Reading.commentEnd ++ behind → behind = rest

variable {text other rest : List Char}

theorem Endless.of_part (h : Endless text) (hother : other <:+: text) : Endless other :=
  fun hend => h (hend.trans hother)

/-- Two texts make the end of a comment only out of a star at the end of the one and a slash in front of the
other. -/
theorem Endless.append (h : Endless text) (hother : Endless other)
    (hseam : text.getLast? ≠ some '*' ∨ other.head? ≠ some '/') : Endless (text ++ other) := by
  intro hend
  rcases List.infix_append_iff.mp hend with hin | hin | ⟨first, second, hsplit, hfirst, hsecond⟩
  · exact h hin
  · exact hother hin
  · match first, second, hsplit with
    | [], _, rfl => exact hother hsecond.isInfix
    | [_], _, rfl =>
      obtain ⟨before, rfl⟩ := hfirst
      obtain ⟨behind, rfl⟩ := hsecond
      rcases hseam with hlast | hhead
      · exact hlast List.getLast?_concat
      · exact hhead rfl
    | [_, _], _, rfl => exact h hfirst.isInfix

/-- A text that begins with a blank can stand behind any other. -/
theorem Endless.append_blank (h : Endless text) (hother : Endless (' ' :: other)) :
    Endless (text ++ ' ' :: other) :=
  h.append hother (.inr (by simp))

/-- Texts that begin with a blank can stand side by side. -/
theorem Endless.flatMap {α : Type} {f : α → List Char} {l : List α}
    (h : ∀ a ∈ l, Endless (f a) ∧ (f a).head? = some ' ')
    (hrest : Endless rest ∧ rest.head? = some ' ') :
    Endless (l.flatMap f ++ rest) ∧ (l.flatMap f ++ rest).head? = some ' ' := by
  induction l with
  | nil => exact hrest
  | cons a l ih =>
    obtain ⟨hfirst, hhead⟩ := h a List.mem_cons_self
    obtain ⟨hlast, hseam⟩ := ih fun b hb => h b (List.mem_cons_of_mem a hb)
    rw [List.flatMap_cons, List.append_assoc]
    refine ⟨hfirst.append hlast (.inr (by rw [hseam]; simp)), ?_⟩
    rw [List.head?_append, hhead]
    rfl

/-- If no comment ends before, the first end is the only one. -/
theorem Endless.endsOnce {front : List Char} (h : Endless (front ++ ['*'])) (hrest : '/' ∉ rest) :
    EndsOnce (front ++ Reading.commentEnd ++ rest) rest := by
  refine ⟨⟨front, rfl⟩, fun before behind heq => ?_⟩
  have hseam : (front ++ ['*']) ++ '/' :: rest = (before ++ ['*']) ++ '/' :: behind := by
    simpa [Reading.commentEnd] using heq
  rcases List.append_eq_append_iff.mp hseam with ⟨gap, -, hgap⟩ | ⟨gap, hgap, hbehind⟩
  · -- the other end would lie behind this one
    cases gap with
    | nil => exact (List.cons.inj hgap).2.symm
    | cons c gap =>
      rw [(List.cons.inj hgap).2] at hrest
      exact absurd (List.mem_append_right gap List.mem_cons_self) hrest
  · -- the other end would lie before this one
    cases gap with
    | nil => exact (List.cons.inj hbehind).2
    | cons c gap =>
      obtain ⟨rfl, -⟩ := List.cons.inj hbehind
      refine absurd ⟨before, gap, ?_⟩ h
      rw [hgap]
      simp [Reading.commentEnd]

/-! ## Lines -/

theorem not_lineFeed_of_mem_linesFrom {begun text line : List Char} (hbegun : '\n' ∉ begun)
    (h : line ∈ linesFrom begun text) : '\n' ∉ line := by
  induction text generalizing begun with
  | nil =>
    cases begun with
    | nil => cases h
    | cons c begun =>
      obtain rfl := List.mem_singleton.mp h
      exact fun hmem => hbegun (List.mem_reverse.mp hmem)
  | cons c text ih =>
    by_cases hc : c = '\n'
    · have hlines : linesFrom begun (c :: text) = dropReturn begun.reverse :: linesFrom [] text := by
        cases begun <;> simp [linesFrom, hc]
      rw [hlines] at h
      rcases List.mem_cons.mp h with rfl | h
      · exact fun hmem =>
          hbegun (List.mem_reverse.mp ((dropReturn_isInfix _).subset hmem))
      · exact ih List.not_mem_nil h
    · have hlines : linesFrom begun (c :: text) = linesFrom (c :: begun) text := by
        cases begun <;> simp [linesFrom, hc]
      rw [hlines] at h
      exact ih (List.not_mem_cons_of_ne_of_not_mem (Ne.symm hc) hbegun) h

/-- The lines of a text are lines, also when they are trimmed. -/
theorem not_lineFeed_of_mem_lines {text line : String} (h : line ∈ (lines text).map trimEnd) :
    '\n' ∉ line.toList := by
  obtain ⟨whole, hwhole, rfl⟩ := List.mem_map.mp h
  obtain ⟨chars, hchars, rfl⟩ := List.mem_map.mp hwhole
  intro hmem
  have hline := (trimEnd_isInfix _).subset hmem
  rw [String.toList_ofList] at hline
  exact not_lineFeed_of_mem_linesFrom List.not_mem_nil hchars hline

theorem toList_onOneLine (s : String) :
    (onOneLine s).toList = s.toList.map fun c => if c = '\n' then ' ' else c := by
  rw [onOneLine, String.toList_ofList]

theorem not_lineFeed_onOneLine (s : String) : '\n' ∉ (onOneLine s).toList := by
  rw [toList_onOneLine]
  intro h
  obtain ⟨c, -, hc⟩ := List.mem_map.mp h
  split at hc
  · cases hc
  · contradiction

/-- Blanks for line feeds make no end of a comment. -/
theorem endless_onOneLine {s : String} (h : Endless s.toList) : Endless (onOneLine s).toList := by
  rw [toList_onOneLine]
  rintro ⟨before, behind, hsplit⟩
  obtain ⟨front, tail, hs, hfront, -⟩ := List.map_eq_append_iff.mp hsplit.symm
  obtain ⟨lead, ending, rfl, -, hending⟩ := List.map_eq_append_iff.mp hfront
  have hkept : ∀ c d : Char, d ≠ ' ' → (if c = '\n' then ' ' else c) = d → c = d := by
    intro c d hd hc
    split at hc
    · exact absurd hc.symm hd
    · exact hc
  obtain ⟨star, slash, rfl⟩ : ∃ star slash, ending = [star, slash] := by
    have hlength := congrArg List.length hending
    rw [List.length_map] at hlength
    exact List.length_eq_two.mp hlength
  simp only [List.map_cons, List.map_nil, Reading.commentEnd, List.cons.injEq, and_true] at hending
  rw [hkept star '*' (by decide) hending.1, hkept slash '/' (by decide) hending.2] at hs
  exact h ⟨lead, tail, hs.symm⟩

/-- Behind a line feed in lines laid out one after another stands the next line, or nothing. -/
theorem prefix_behind_lineFeed {lines : List (List Char)} (h : ∀ line ∈ lines, '\n' ∉ line)
    {before behind : List Char}
    (hsplit : lines.flatMap (· ++ ['\n']) = before ++ '\n' :: behind) :
    behind = [] ∨ ∃ line ∈ lines.tail, line <+: behind := by
  induction lines generalizing before with
  | nil => exact absurd hsplit (by simp)
  | cons line lines ih =>
    rw [List.flatMap_cons, List.append_assoc, List.singleton_append] at hsplit
    have hnext : lines.flatMap (· ++ ['\n']) = behind →
        behind = [] ∨ ∃ other ∈ lines, other <+: behind := by
      rintro rfl
      cases lines with
      | nil => exact .inl rfl
      | cons next lines =>
        refine .inr ⟨next, List.mem_cons_self, ?_⟩
        rw [List.flatMap_cons, List.append_assoc]
        exact List.prefix_append _ _
    rcases List.append_eq_append_iff.mp hsplit with ⟨gap, -, hgap⟩ | ⟨gap, hline, hgap⟩
    · cases gap with
      | nil => exact hnext (List.cons.inj hgap).2
      | cons c gap =>
        -- the line feed stands in a later line
        rcases ih (fun other hother => h other (List.mem_cons_of_mem line hother))
          (List.cons.inj hgap).2 with hnil | ⟨other, hother, hprefix⟩
        · exact .inl hnil
        · exact .inr ⟨other, List.mem_of_mem_tail hother, hprefix⟩
    · cases gap with
      | nil => exact hnext (List.cons.inj hgap).2.symm
      | cons c gap =>
        obtain ⟨rfl, -⟩ := List.cons.inj hgap
        refine absurd ?_ (h line List.mem_cons_self)
        rw [hline]
        exact List.mem_append_right before List.mem_cons_self

end Text

namespace DocComment

open Text

/-! ## Content lines -/

/-- The names of the parameters end neither a comment nor a line. -/
def HasPlainNames (doc : DocComment) : Prop :=
  ∀ p ∈ doc.params, ¬Reading.commentEnd <:+: p.1.toList ∧ '\n' ∉ p.1.toList

/-- A text that can stand on a line of a comment. -/
def FitsLine (line : String) : Prop := Endless line.toList ∧ '\n' ∉ line.toList

theorem tagLine_isInfix (tag text : String) :
    (tagLine tag text).toList <:+: tag.toList ++ ' ' :: (onOneLine (plainMarkup text)).toList := by
  have htrim := trimEnd_isInfix (tag ++ " " ++ onOneLine (plainMarkup text))
  rwa [String.toList_append, String.toList_append, List.append_assoc] at htrim

theorem not_lineFeed_tagLine {tag : String} (h : '\n' ∉ tag.toList) (text : String) :
    '\n' ∉ (tagLine tag text).toList := by
  intro hmem
  rcases List.mem_append.mp ((tagLine_isInfix tag text).subset hmem) with htag | hrest
  · exact h htag
  · rcases List.mem_cons.mp hrest with hblank | hrest
    · cases hblank
    · exact not_lineFeed_onOneLine _ hrest

theorem endless_tagLine {tag : String} (h : Endless tag.toList) (text : String) :
    Endless (tagLine tag text).toList := by
  have htext : Endless (' ' :: (onOneLine (plainMarkup text)).toList) := by
    have hblank : Endless [' '] := fun hend => absurd hend.length_le (by decide)
    exact hblank.append (endless_onOneLine (not_commentEnd_plainMarkup text)) (.inl (by simp))
  exact (h.append_blank htext).of_part (tagLine_isInfix tag text)

/-- A content line comes from the description, from a parameter or from the deprecation note. -/
theorem mem_content_cases {doc : DocComment} {line : String} (h : line ∈ doc.content) :
    (∃ description, line ∈ (Text.lines (plainMarkup description)).map trimEnd) ∨
      (∃ p ∈ doc.params, line = tagLine ("@param " ++ p.1) p.2) ∨
        ∃ note, line = tagLine "@deprecated" note := by
  simp only [content, List.mem_append] at h
  rcases h with (h | h) | h
  · cases hdescription : doc.description with
    | none =>
      rw [hdescription] at h
      cases h
    | some description =>
      rw [hdescription] at h
      exact .inl ⟨description, h⟩
  · obtain ⟨p, hp, rfl⟩ := List.mem_map.mp h
    exact .inr (.inl ⟨p, hp, rfl⟩)
  · cases hnote : doc.deprecated with
    | none =>
      rw [hnote] at h
      cases h
    | some note =>
      rw [hnote] at h
      exact .inr (.inr ⟨note, List.mem_singleton.mp h⟩)

/-- Content lines are lines if the names of the parameters end no line. -/
theorem not_lineFeed_content {doc : DocComment} (h : ∀ p ∈ doc.params, '\n' ∉ p.1.toList)
    {line : String} (hline : line ∈ doc.content) : '\n' ∉ line.toList := by
  rcases mem_content_cases hline with ⟨description, hline⟩ | ⟨p, hp, rfl⟩ | ⟨note, rfl⟩
  · exact not_lineFeed_of_mem_lines hline
  · refine not_lineFeed_tagLine ?_ p.2
    rw [String.toList_append]
    exact fun hmem => (List.mem_append.mp hmem).elim (by decide) (h p hp)
  · exact not_lineFeed_tagLine (by decide) note

/-- Whatever the texts are, content lines can stand in a comment. -/
theorem fitsLine_content {doc : DocComment} (h : doc.HasPlainNames) {line : String}
    (hline : line ∈ doc.content) : FitsLine line := by
  refine ⟨?_, not_lineFeed_content (fun p hp => (h p hp).2) hline⟩
  rcases mem_content_cases hline with ⟨description, hline⟩ | ⟨p, hp, rfl⟩ | ⟨note, rfl⟩
  · have hpart := trimmed_infix hline
    exact fun hend => not_commentEnd_plainMarkup description (hend.trans hpart)
  · refine endless_tagLine ?_ p.2
    rw [String.toList_append]
    exact Endless.append (by decide) (h p hp).1 (.inl (by decide))
  · exact endless_tagLine (by decide) note

/-! ## Comments on lines of their own -/

/-- A comment on lines of its own: it begins behind the indentation, ends once, in front of the last line feed, and
every line but the first begins with the indentation and a star. -/
structure IsBlock (levels : Nat) (text : String) : Prop where
  begins : (indentation levels ++ "/**").toList <+: text.toList
  ends : EndsOnce text.toList ['\n']
  goesOn : ∀ before behind, text.toList = before ++ '\n' :: behind →
    behind = [] ∨ (indentation levels ++ " *").toList <+: behind

/-- A comment in front of a type: one line that ends where the comment ends. -/
structure IsRemark (text : String) : Prop where
  begins : "/**".toList <+: text.toList
  ends : EndsOnce text.toList []
  single : '\n' ∉ text.toList

/-- A line at an indentation. -/
def laid (levels : Nat) (line : String) : List Char := (indentation levels).toList ++ line.toList

theorem toList_layLines (levels : Nat) (lines : List String) :
    (layLines levels lines).toList = (lines.map (laid levels)).flatMap (· ++ ['\n']) := by
  rw [layLines, String.toList_join, List.flatMap_map, List.flatMap_map]
  congr 1
  funext line
  rw [String.toList_append, String.toList_append]
  rfl

theorem not_lineFeed_laid {line : String} (h : '\n' ∉ line.toList) (levels : Nat) :
    '\n' ∉ laid levels line := by
  intro hmem
  rcases List.mem_append.mp hmem with hblank | hline
  · rw [indentation, String.toList_ofList] at hblank
    cases (List.mem_replicate.mp hblank).2
  · exact h hline

/-- An indentation ends no comment, whatever stands behind it. -/
theorem endless_laid {line : List Char} (h : Endless line) (levels : Nat) :
    Endless ((indentation levels).toList ++ line) := by
  have hblanks : ∀ c ∈ (indentation levels).toList, c = ' ' := by
    rw [indentation, String.toList_ofList]
    exact fun c hc => (List.mem_replicate.mp hc).2
  refine Endless.append (fun hend => ?_) h (.inl fun hlast => ?_)
  · cases hblanks '*' (hend.subset List.mem_cons_self)
  · cases hblanks '*' (List.mem_of_mem_getLast? hlast)

theorem head?_laid (levels : Nat) (line : List Char) :
    ((indentation levels).toList ++ ' ' :: line).head? = some ' ' := by
  rw [indentation, String.toList_ofList]
  cases 2 * levels with
  | zero => rfl
  | succ n => rfl

/-- A content line in a comment of several lines begins with a star behind a blank. -/
theorem starLine_eq (line : String) : ∃ rest, (starLine line).toList = ' ' :: '*' :: rest ∧
    (FitsLine line → Endless (' ' :: '*' :: rest) ∧ '\n' ∉ ' ' :: '*' :: rest) := by
  by_cases h : line = ""
  · subst h
    exact ⟨[], rfl, fun _ => ⟨by decide, by decide⟩⟩
  · refine ⟨' ' :: line.toList, ?_, fun hfits => ⟨?_, ?_⟩⟩
    · rw [starLine, if_neg h, String.toList_append]
      rfl
    · have hstar : Endless [' ', '*', ' '] := by decide
      exact hstar.append hfits.1 (.inl (by decide))
    · simpa using hfits.2

/-- Lines are a comment if the first one begins it, the others go on with it and the last one ends it. -/
theorem isBlock_layLines {first : String} {others : List String} (front : List Char) {levels : Nat}
    (hfirst : "/**".toList <+: first.toList) (hothers : ∀ line ∈ others, " *".toList <+: line.toList)
    (hfeeds : ∀ line ∈ first :: others, '\n' ∉ line.toList)
    (htext : (layLines levels (first :: others)).toList = front ++ Reading.commentEnd ++ ['\n'])
    (hfront : Endless (front ++ ['*'])) : IsBlock levels (layLines levels (first :: others)) where
  begins := by
    rw [toList_layLines, List.map_cons, List.flatMap_cons, String.toList_append, laid,
      List.append_assoc, List.append_assoc]
    exact List.prefix_append_right_inj _ |>.mpr (hfirst.trans (List.prefix_append _ _))
  ends := by
    rw [htext]
    exact hfront.endsOnce (by decide)
  goesOn := by
    intro before behind hsplit
    rw [toList_layLines] at hsplit
    have hlaid : ∀ line ∈ (first :: others).map (laid levels), '\n' ∉ line := by
      intro line hline
      obtain ⟨source, hsource, rfl⟩ := List.mem_map.mp hline
      exact not_lineFeed_laid (hfeeds source hsource) levels
    refine (prefix_behind_lineFeed hlaid hsplit).imp_right fun ⟨line, hline, hprefix⟩ => ?_
    obtain ⟨source, hsource, rfl⟩ := List.mem_map.mp (List.map_tail ▸ hline)
    rw [String.toList_append]
    exact ((List.prefix_append_right_inj _).mpr (hothers source hsource)).trans hprefix

theorem isBlock_of_single {line : String} (h : FitsLine line) (levels : Nat) :
    IsBlock levels (layLines levels ["/** " ++ line ++ " */"]) := by
  have hline : ("/** " ++ line ++ " */").toList = '/' :: '*' :: '*' :: ' ' :: line.toList ++ [' ', '*', '/'] := by
    simp
  refine isBlock_layLines ((indentation levels).toList ++
    ('/' :: '*' :: '*' :: ' ' :: line.toList ++ [' '])) ?_ (List.forall_mem_nil _) ?_ ?_ ?_
  · rw [hline]
    exact ⟨_, rfl⟩
  · intro other hother
    obtain rfl := List.mem_singleton.mp hother
    rw [hline]
    simpa using h.2
  · rw [toList_layLines, List.map_singleton, List.flatMap_singleton, laid, hline]
    simp [Reading.commentEnd]
  · rw [List.append_assoc]
    refine endless_laid ?_ levels
    have hopen : Endless ['/', '*', '*', ' '] := by decide
    have hclose : Endless [' ', '*'] := by decide
    simpa using (hopen.append h.1 (.inl (by decide))).append_blank hclose

theorem isBlock_of_several {lines : List String} (h : ∀ line ∈ lines, FitsLine line) (levels : Nat) :
    IsBlock levels (layLines levels ("/**" :: (lines.map starLine ++ [" */"]))) := by
  -- what stands between the first line and the end of the comment
  have hmiddle : Endless ((lines.map starLine).flatMap (fun line => laid levels line ++ ['\n']) ++
        ((indentation levels).toList ++ [' ', '*'])) ∧
      ((lines.map starLine).flatMap (fun line => laid levels line ++ ['\n']) ++
        ((indentation levels).toList ++ [' ', '*'])).head? = some ' ' := by
    refine Endless.flatMap (fun line hline => ?_)
      ⟨endless_laid (by decide) levels, head?_laid levels _⟩
    obtain ⟨source, hsource, rfl⟩ := List.mem_map.mp hline
    obtain ⟨rest, hrest, hfits⟩ := starLine_eq source
    rw [laid, hrest]
    refine ⟨?_, ?_⟩
    · exact (endless_laid (hfits (h source hsource)).1 levels).append (by decide)
        (.inr (by decide))
    · rw [List.head?_append, head?_laid]
      rfl
  refine isBlock_layLines (laid levels "/**" ++ ['\n'] ++
    (lines.map starLine).flatMap (fun line => laid levels line ++ ['\n']) ++
      ((indentation levels).toList ++ [' '])) ?_ ?_ ?_ ?_ ?_
  · exact List.prefix_rfl
  · intro line hline
    rcases List.mem_append.mp hline with hline | hline
    · obtain ⟨source, -, rfl⟩ := List.mem_map.mp hline
      obtain ⟨rest, hrest, -⟩ := starLine_eq source
      rw [hrest]
      exact ⟨rest, rfl⟩
    · obtain rfl := List.mem_singleton.mp hline
      exact ⟨['/'], rfl⟩
  · intro line hline
    rcases List.mem_cons.mp hline with rfl | hline
    · decide
    · rcases List.mem_append.mp hline with hline | hline
      · obtain ⟨source, hsource, rfl⟩ := List.mem_map.mp hline
        obtain ⟨rest, hrest, hfits⟩ := starLine_eq source
        rw [hrest]
        exact (hfits (h source hsource)).2
      · obtain rfl := List.mem_singleton.mp hline
        decide
  · rw [toList_layLines]
    simp [laid, Reading.commentEnd, List.flatMap_map]
  · have hfirst : Endless "/**".toList := by decide
    have hopen : Endless (laid levels "/**" ++ ['\n']) :=
      (endless_laid hfirst levels).append (by decide) (.inr (by decide))
    have hall := hopen.append hmiddle.1 (.inl (by rw [List.getLast?_concat]; decide))
    simpa using hall

/-! ## Comments in front of types -/

theorem isRemark_of_fitsLine {lines : List String} (h : ∀ line ∈ lines, FitsLine line) :
    IsRemark ("/** " ++ String.intercalate " " lines ++ " */") := by
  have hjoined : FitsLine (String.intercalate " " lines) := by
    induction lines with
    | nil => exact ⟨by decide, by decide⟩
    | cons line lines ih =>
      have hline := h line List.mem_cons_self
      cases lines with
      | nil => rwa [String.intercalate_singleton]
      | cons next rest =>
        have hrest := ih fun other hother => h other (List.mem_cons_of_mem line hother)
        rw [String.intercalate_cons_cons]
        constructor
        · have hblank : Endless [' '] := by decide
          rw [String.toList_append, String.toList_append, List.append_assoc]
          exact hline.1.append_blank (hblank.append hrest.1 (.inl (by decide)))
        · rw [String.toList_append, String.toList_append]
          intro hmem
          rcases List.mem_append.mp hmem with hmem | hmem
          · rcases List.mem_append.mp hmem with hmem | hmem
            · exact hline.2 hmem
            · exact absurd hmem (by decide)
          · exact hrest.2 hmem
  have htext : ("/** " ++ String.intercalate " " lines ++ " */").toList =
      ('/' :: '*' :: '*' :: ' ' :: (String.intercalate " " lines).toList ++ [' ']) ++
        Reading.commentEnd ++ [] := by
    simp [Reading.commentEnd]
  have hfront : Endless
      (('/' :: '*' :: '*' :: ' ' :: (String.intercalate " " lines).toList ++ [' ']) ++ ['*']) := by
    have hopen : Endless ['/', '*', '*', ' '] := by decide
    have hclose : Endless [' ', '*'] := by decide
    simpa using (hopen.append hjoined.1 (.inl (by decide))).append_blank hclose
  constructor
  · rw [htext]
    exact ⟨_, rfl⟩
  · rw [htext]
    exact hfront.endsOnce List.not_mem_nil
  · rw [htext]
    simpa [Reading.commentEnd] using hjoined.2

/-! ## Every comment -/

theorem isEmpty_iff {doc : DocComment} : doc.isEmpty = true ↔ doc = .none := by
  obtain ⟨description, params, deprecated⟩ := doc
  simp [isEmpty, DocComment.none, and_assoc]

theorem lines_of_isEmpty {doc : DocComment} (h : doc.isEmpty = true) : doc.lines = [] := if_pos h

/-- The lines of a comment that is not empty. -/
theorem lines_cases {doc : DocComment} (h : doc.isEmpty = false) :
    (∃ line, doc.content = [line] ∧ doc.lines = ["/** " ++ line ++ " */"]) ∨
      doc.lines = "/**" :: (doc.content.map starLine ++ [" */"]) := by
  unfold lines
  rw [h, if_neg Bool.false_ne_true]
  split
  next line hcontent => exact .inl ⟨line, hcontent, rfl⟩
  next => exact .inr rfl

theorem isBlock_write {doc : DocComment} (hnames : doc.HasPlainNames) (h : doc.isEmpty = false)
    (levels : Nat) : IsBlock levels (doc.write levels) := by
  rw [write]
  rcases lines_cases h with ⟨line, hcontent, hlines⟩ | hlines
  · rw [hlines]
    exact isBlock_of_single (fitsLine_content hnames (hcontent ▸ List.mem_cons_self)) levels
  · rw [hlines]
    exact isBlock_of_several (fun _ hline => fitsLine_content hnames hline) levels

/-- **Documentation stays in its comment.** If the names of the parameters end neither a comment nor a line, then
at every indentation a comment is printed as nothing exactly if it is empty, and as a block otherwise; and in
front of a type it is nothing exactly if it is empty, and otherwise a remark on one line. -/
theorem write_confined {doc : DocComment} (hnames : doc.HasPlainNames) :
    (∀ levels, (doc.write levels = "" ↔ doc = .none) ∧
      (doc ≠ .none → IsBlock levels (doc.write levels))) ∧
    (doc.inlineText? = Option.none ↔ doc = .none) ∧
    ∀ remark, doc.inlineText? = some remark → IsRemark remark := by
  have hblock : doc ≠ .none → ∀ levels, IsBlock levels (doc.write levels) := fun hne levels =>
    isBlock_write hnames (Bool.eq_false_iff.mpr fun hempty => hne (isEmpty_iff.mp hempty)) levels
  refine ⟨fun levels => ⟨⟨fun htext => ?_, fun hdoc => ?_⟩, fun hne => hblock hne levels⟩, ?_, ?_⟩
  · by_contra hne
    obtain ⟨front, hfront⟩ := (hblock hne levels).ends.1
    rw [htext] at hfront
    simp [Reading.commentEnd] at hfront
  · rw [write, lines_of_isEmpty (isEmpty_iff.mpr hdoc)]
    rfl
  · rw [← isEmpty_iff]
    unfold inlineText?
    split <;> simp_all
  · intro remark hremark
    unfold inlineText? at hremark
    split at hremark
    · cases hremark
    · cases hremark
      exact isRemark_of_fitsLine fun _ hline => fitsLine_content hnames hline

/-- A comment whose texts try to end it, on a line each and across lines, behind a parameter named by a star. -/
theorem write_confined_stars :
    HasPlainNames ⟨some "**/ *\n/ */", [("*", "/\n*/")], some "*/"⟩ ∧
      ∀ levels, IsBlock levels (write ⟨some "**/ *\n/ */", [("*", "/\n*/")], some "*/"⟩ levels) := by
  have hnames : HasPlainNames ⟨some "**/ *\n/ */", [("*", "/\n*/")], some "*/"⟩ := by
    intro p hp
    obtain rfl := List.mem_singleton.mp hp
    decide
  exact ⟨hnames, fun levels => ((write_confined hnames).1 levels).2 nofun⟩

end DocComment

end SchemaTypings
