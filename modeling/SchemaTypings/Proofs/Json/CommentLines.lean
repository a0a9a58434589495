import SchemaTypings.Proofs.Json.ParserLaws
import SchemaTypings.Text.Line

/-!
# Comment lines in JSON

Comment lines are taken out line by line, with no regard to what stands in the text. This is safe for
JSON: its lines begin outside of strings, since a line end is a control character, so none of its own
lines can begin with a slash, and what is lost between its lines are blanks.

* `Text.Commented`: a text and the same text with comment lines inserted.
* `Commented.trims_stripped`: without its comment lines it is the first one again, up to line ends.
* `JsonReader.read_stripLineComments`: comment lines do not change what a lawful reader reads.
-/

namespace SchemaTypings.Text

/-! ## Inserting comment lines -/

/-- The first characters of the line that are not blank are `//`. -/
def IsComment (line : List Char) : Prop :=
  ∃ blanks rest, line = blanks ++ '/' :: '/' :: rest ∧ ∀ c ∈ blanks, isBlank c = true

/-- The second text is the first one with comment lines inserted, read from the beginning of a line. A
line may end with a carriage return in front of its line feed. -/
inductive Commented : List Char → List Char → Prop
  /-- The last line stays as it is. -/
  | same {line : List Char} (hone : '\n' ∉ line) : Commented line line
  /-- A line is kept with its end. -/
  | keep {line text more : List Char} (hone : '\n' ∉ line) (h : Commented text more) :
      Commented (line ++ '\n' :: text) (line ++ '\n' :: more)
  /-- A comment line is inserted. -/
  | insert {line text more : List Char} (hline : IsComment line) (hone : '\n' ∉ line)
      (h : Commented text more) : Commented text (line ++ '\n' :: more)
  /-- A comment line without an end is inserted behind the last line. -/
  | insertLast {line : List Char} (hline : IsComment line) (hone : '\n' ∉ line) : Commented [] line
  /-- The last line gets an end, for comment lines behind it. -/
  | endLine {line return? more : List Char} (hone : '\n' ∉ line) (hne : line ≠ [])
      (hreturn : return? = [] ∨ return? = ['\r']) (h : Commented [] more) :
      Commented line (line ++ return? ++ '\n' :: more)

/-! ## Lines -/

theorem linesFrom_lineFeed {line : List Char} (hone : '\n' ∉ line) (begun rest : List Char) :
    linesFrom begun (line ++ '\n' :: rest) =
      dropReturn (begun.reverse ++ line) :: linesFrom [] rest := by
  induction line generalizing begun with
  | nil => cases begun <;> simp [linesFrom]
  | cons c line ih =>
    rw [List.mem_cons, not_or] at hone
    have hstep : linesFrom begun (c :: (line ++ '\n' :: rest)) =
        linesFrom (c :: begun) (line ++ '\n' :: rest) := by
      cases begun <;> simp [linesFrom, Ne.symm hone.1]
    rw [List.cons_append, hstep, ih hone.2]
    simp

theorem linesFrom_last {line : List Char} (hone : '\n' ∉ line) {begun : List Char}
    (hne : begun.reverse ++ line ≠ []) : linesFrom begun line = [begun.reverse ++ line] := by
  induction line generalizing begun with
  | nil =>
    cases begun with
    | nil => exact absurd rfl hne
    | cons c begun => simp [linesFrom]
  | cons c line ih =>
    rw [List.mem_cons, not_or] at hone
    have hstep : linesFrom begun (c :: line) = linesFrom (c :: begun) line := by
      cases begun <;> simp [linesFrom, Ne.symm hone.1]
    rw [hstep, ih hone.2 (by simp)]
    simp

/-- The lines that stay. -/
def keptFrom (text : List Char) : List (List Char) :=
  (linesFrom [] text).filter fun line => !isCommentLine (String.ofList line)

theorem toList_stripLineComments (source : String) :
    (stripLineComments source).toList = ['\n'].intercalate (keptFrom source.toList) := by
  have hid : String.toList ∘ String.ofList = id := funext fun _ => String.toList_ofList
  rw [stripLineComments, lines, String.toList_intercalate, List.filter_map, List.map_map, hid,
    List.map_id]
  rfl

/-! ## Comments -/

theorem isCommentLine_ofList_iff {line : List Char} :
    isCommentLine (String.ofList line) = true ↔ IsComment line := by
  unfold isCommentLine trimStart IsComment
  rw [String.toList_ofList, String.toList_ofList, List.isPrefixOf_iff_prefix]
  constructor
  · rintro ⟨rest, hrest⟩
    refine ⟨line.takeWhile isBlank, rest, ?_, fun c hc => ?_⟩
    · have hsplit := (List.takeWhile_append_dropWhile (p := isBlank) (l := line)).symm
      rwa [← hrest] at hsplit
    · exact List.all_eq_true.mp List.all_takeWhile c hc
  · rintro ⟨blanks, rest, rfl, hblanks⟩
    rw [List.dropWhile_append_of_pos hblanks]
    exact ⟨rest, rfl⟩

theorem IsComment.append {line : List Char} (h : IsComment line) (more : List Char) :
    IsComment (line ++ more) := by
  obtain ⟨blanks, rest, rfl, hblanks⟩ := h
  exact ⟨blanks, rest ++ more, by simp, hblanks⟩

/-- Where a comment is, there is a slash outside of strings. -/
theorem IsComment.not_sound {line : List Char} (h : IsComment line) (more : List Char) :
    ¬Json.Sound .outside (line ++ more) := by
  obtain ⟨blanks, rest, rfl, hblanks⟩ := h
  intro hsound
  have hplace : Place.outside.atEnd blanks = .outside := by
    clear hsound
    induction blanks with
    | nil => rfl
    | cons c blanks ih =>
      obtain ⟨hc, hblanks⟩ := List.forall_mem_cons.mp hblanks
      have hquote : c ≠ '"' := by
        rintro rfl
        cases hc
      rw [Place.atEnd_cons, Place.after_outside hquote]
      exact ih hblanks
  have hslash := Json.sound_iff.mp hsound blanks '/' ('/' :: rest ++ more) (by simp)
  rw [hplace] at hslash
  cases hslash

theorem dropReturn_cases (line : List Char) :
    dropReturn line = line ∨ line = dropReturn line ++ ['\r'] := by
  unfold dropReturn
  split
  next hlast =>
    right
    obtain ⟨front, rfl⟩ := List.getLast?_eq_some_iff.mp hlast
    simp
  · exact .inl rfl

theorem IsComment.of_return {line : List Char} (h : IsComment (line ++ ['\r'])) :
    IsComment line := by
  obtain ⟨blanks, rest, heq, hblanks⟩ := h
  rcases List.eq_nil_or_concat rest with rfl | ⟨front, last, rfl⟩
  · have hlast := congrArg List.getLast? heq
    simp at hlast
  · have hsplit : line ++ ['\r'] = (blanks ++ '/' :: '/' :: front) ++ [last] := by
      rw [heq]
      simp
    obtain ⟨rfl, -⟩ := List.append_inj' hsplit rfl
    exact ⟨blanks, front, rfl, hblanks⟩

theorem dropReturn_concat (line : List Char) : dropReturn (line ++ ['\r']) = line := by
  unfold dropReturn
  simp

theorem isComment_dropReturn_iff {line : List Char} :
    IsComment (dropReturn line) ↔ IsComment line := by
  rcases dropReturn_cases line with h | h
  · rw [h]
  · refine ⟨fun hline => ?_, fun hline => ?_⟩
    · rw [h]
      exact hline.append ['\r']
    · rw [h] at hline
      exact hline.of_return

/-! ## What stays -/

theorem keptFrom_comment {line : List Char} (hline : IsComment line) (hone : '\n' ∉ line)
    (rest : List Char) : keptFrom (line ++ '\n' :: rest) = keptFrom rest := by
  have hcomment : IsComment (dropReturn ([].reverse ++ line)) := isComment_dropReturn_iff.mpr hline
  unfold keptFrom
  rw [linesFrom_lineFeed hone, List.filter_cons, isCommentLine_ofList_iff.mpr hcomment]
  rfl

theorem keptFrom_line {line : List Char} (hline : ¬IsComment line) (hone : '\n' ∉ line)
    (rest : List Char) : keptFrom (line ++ '\n' :: rest) = dropReturn line :: keptFrom rest := by
  have hcomment : isCommentLine (String.ofList (dropReturn line)) = false := by
    rw [← Bool.not_eq_true, isCommentLine_ofList_iff, isComment_dropReturn_iff]
    exact hline
  unfold keptFrom
  rw [linesFrom_lineFeed hone, List.reverse_nil, List.nil_append, List.filter_cons, hcomment]
  rfl

theorem keptFrom_last {line : List Char} (hone : '\n' ∉ line) (hne : line ≠ []) :
    keptFrom line = if isCommentLine (String.ofList line) then [] else [line] := by
  unfold keptFrom
  have hlines : linesFrom [] line = [line] := linesFrom_last hone hne
  rw [hlines]
  cases h : isCommentLine (String.ofList line) <;> simp [h]

/-- Nothing but comment lines stands behind the end of a text. -/
theorem Commented.keptFrom_eq_nil {more : List Char} (h : Commented [] more) :
    keptFrom more = [] := by
  generalize htext : ([] : List Char) = text at h
  induction h with
  | same => rw [← htext]; rfl
  | keep => cases (List.append_eq_nil_iff.mp htext.symm).2
  | insert hline hone h ih => rw [keptFrom_comment hline hone, ih htext]
  | @insertLast line hline hone =>
    rw [keptFrom_last hone, if_pos (isCommentLine_ofList_iff.mpr hline)]
    rintro rfl
    obtain ⟨blanks, rest, heq, -⟩ := hline
    simp at heq
  | endLine hone hne => exact absurd htext.symm hne

/-! ## The text without its comment lines -/

open Json (Trims IsGap Sound)

/-- Line ends stand outside of strings. -/
theorem outside_of_sound {place : Place} {line rest : List Char} {c : Char}
    (h : Sound place (line ++ c :: rest)) (hc : c.toNat < 32) : place.atEnd line = .outside :=
  Json.eq_outside_of_allows (Json.sound_iff.mp h line c rest rfl) hc

/-- A carriage return at the end of a line may be lost. -/
theorem trims_dropReturn {line rest less : List Char} (hs : Sound .outside (line ++ rest))
    (hgap : IsGap rest) (h : Trims (Place.outside.atEnd line) rest less) :
    Trims .outside (line ++ rest) (dropReturn line ++ less) := by
  rcases dropReturn_cases line with hline | hline
  · rw [hline]
    exact h.append_left
  · generalize dropReturn line = front at hline ⊢
    subst hline
    rw [List.append_assoc, List.singleton_append] at hs ⊢
    have hplace := outside_of_sound hs (by decide)
    rw [Place.atEnd_append, hplace] at h
    refine Trims.append_left ?_
    rw [hplace]
    exact .drop rfl hgap h

/-- Without the inserted lines the text is what it was, up to line ends. -/
theorem Commented.trims_stripped {text more : List Char} (h : Commented text more)
    (hs : Sound .outside text) : Trims .outside text (['\n'].intercalate (keptFrom more)) := by
  induction h with
  | @same line hone =>
    by_cases hne : line = []
    · subst hne
      exact .nil
    · have hline : isCommentLine (String.ofList line) = false := by
        rw [← Bool.not_eq_true, isCommentLine_ofList_iff]
        exact fun hline => hline.not_sound [] (by rwa [List.append_nil])
      rw [keptFrom_last hone hne, hline]
      simpa using Trims.refl .outside line
  | @keep line text more hone h ih =>
    have hline : ¬IsComment line := fun hline => hline.not_sound _ hs
    have hplace : Place.outside.atEnd line = .outside := outside_of_sound hs (by decide)
    have hrest : Sound .outside text := by
      have hend := (Json.sound_append.mp hs).2
      rw [hplace] at hend
      exact hend.2
    have ih := ih hrest
    have hgap : IsGap ('\n' :: text) := .cons rfl _
    rw [keptFrom_line hline hone]
    cases hkept : keptFrom more with
    | nil =>
      rw [hkept, List.intercalate_nil] at ih
      have hdrop : Trims (Place.outside.atEnd line) ('\n' :: text) [] := by
        rw [hplace]
        exact .drop rfl ih.isGap_of_nil ih
      simpa using trims_dropReturn hs hgap hdrop
    | cons first others =>
      have hkeep : Trims (Place.outside.atEnd line) ('\n' :: text)
          ('\n' :: ['\n'].intercalate (keptFrom more)) := by
        rw [hplace]
        exact .keep '\n' ih
      rw [List.intercalate_cons_of_ne_nil (List.cons_ne_nil _ _), ← hkept]
      simpa using trims_dropReturn hs hgap hkeep
  | insert hline hone h ih =>
    rw [keptFrom_comment hline hone]
    exact ih hs
  | insertLast hline hone =>
    have hnil : Commented [] _ := .insertLast hline hone
    rw [hnil.keptFrom_eq_nil]
    exact .nil
  | @endLine line return? more hone hne hreturn h ih =>
    have hs' : Sound .outside (line ++ []) := by rwa [List.append_nil]
    have hline : ¬IsComment line := fun hline => hline.not_sound [] hs'
    rcases hreturn with rfl | rfl
    · rw [List.append_nil, keptFrom_line hline hone, h.keptFrom_eq_nil]
      simpa using trims_dropReturn hs' .nil .nil
    · have hone' : '\n' ∉ line ++ ['\r'] := by simpa using hone
      rw [keptFrom_line (fun hline' => hline hline'.of_return) hone', h.keptFrom_eq_nil,
        dropReturn_concat]
      simpa using Trims.refl .outside line

end SchemaTypings.Text

namespace SchemaTypings.JsonReader

section

variable [JsonReader]

/-- What can be read is sound. -/
theorem Lawful.sound (laws : JsonReader.Lawful) {text : String} {value : Json}
    (h : read text = .ok value) : Json.Sound .outside text.toList := by
  refine Json.sound_iff.mpr fun front c rest htext => ?_
  rw [← String.ofList_toList (s := text), htext] at h
  cases hplace : Place.outside.atEnd front with
  | outside =>
    refine decide_eq_true ?_
    rintro rfl
    exact laws.no_slash h hplace
  | inString | escaped =>
    refine decide_eq_true (Nat.not_lt.mp fun hc => ?_)
    exact nomatch hplace.symm.trans (laws.no_control h hc)

/-- Blanks are lost one after another. -/
theorem Lawful.trims (laws : JsonReader.Lawful) {place : Place} {text less : List Char} {value : Json}
    (ht : Json.Trims place text less) {front : List Char} (hplace : Place.outside.atEnd front = place)
    (h : read (.ofList (front ++ text)) = .ok value) :
    read (.ofList (front ++ less)) = .ok value := by
  induction ht generalizing front with
  | nil => exact h
  | keep c ht ih =>
    rw [← List.singleton_append, ← List.append_assoc] at h ⊢
    refine ih ?_ h
    rw [Place.atEnd_append, hplace]
    rfl
  | drop hc hgap ht ih => exact ih hplace (laws.blank h hplace hc hgap)

/-- **Comment lines do not change what is read.** Whatever comment lines are inserted into a document,
it is read as before once they are taken out. -/
theorem read_stripLineComments (laws : JsonReader.Lawful) {text source : String} {value : Json}
    (h : read text = .ok value) (hs : Text.Commented text.toList source.toList) :
    read (Text.stripLineComments source) = .ok value := by
  have htrims := hs.trims_stripped (laws.sound h)
  rw [← Text.toList_stripLineComments] at htrims
  have hread : read (.ofList ([] ++ (Text.stripLineComments source).toList)) = .ok value :=
    laws.trims htrims rfl (by rwa [List.nil_append, String.ofList_toList])
  rwa [List.nil_append, String.ofList_toList] at hread

end

/-- A list of two texts with slashes, on lines that end in different ways, with a comment line at each
place. -/
theorem read_stripLineComments_slashes :
    JsonReader.Lawful ∧
      read "[\"http://a\",\r\n\"// b\"]" = .ok (.array [.text "http://a", .text "// b"]) ∧
      Text.Commented "[\"http://a\",\r\n\"// b\"]".toList
        "// one\n[\"http://a\",\r\n  // two\r\n\"// b\"]\n// three".toList ∧
      read (Text.stripLineComments
        "// one\n[\"http://a\",\r\n  // two\r\n\"// b\"]\n// three") =
          .ok (.array [.text "http://a", .text "// b"]) := by
  have hread : read "[\"http://a\",\r\n\"// b\"]" =
      .ok (.array [.text "http://a", .text "// b"]) := by rfl
  have hthree : Text.Commented [] "// three".toList :=
    .insertLast ⟨[], " three".toList, rfl, nofun⟩ (by decide)
  have hlast : Text.Commented "\"// b\"]".toList "\"// b\"]\n// three".toList :=
    .endLine (by decide) (by decide) (.inl rfl) hthree
  have htwo : Text.Commented "\"// b\"]".toList "  // two\r\n\"// b\"]\n// three".toList :=
    .insert ⟨"  ".toList, " two\r".toList, rfl, List.all_eq_true.mp rfl⟩ (by decide) hlast
  have hfirst : Text.Commented "[\"http://a\",\r\n\"// b\"]".toList
      "[\"http://a\",\r\n  // two\r\n\"// b\"]\n// three".toList :=
    .keep (show '\n' ∉ "[\"http://a\",\r".toList by decide) htwo
  have hone : Text.Commented "[\"http://a\",\r\n\"// b\"]".toList
      "// one\n[\"http://a\",\r\n  // two\r\n\"// b\"]\n// three".toList :=
    .insert ⟨[], " one".toList, rfl, nofun⟩ (by decide) hfirst
  exact ⟨Json.lawful_reader, hread, hone, read_stripLineComments Json.lawful_reader hread hone⟩

end SchemaTypings.JsonReader
