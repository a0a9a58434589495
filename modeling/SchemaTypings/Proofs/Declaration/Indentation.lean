import SchemaTypings.Proofs.Declaration.Lines

/-!
# Indentation

A declaration can be printed part by part: its comment, its members and the declarations in it each put an
indentation before their own lines, and what stands between braces is printed one level further in. The text is the
one that is laid out from lines. As no line breaks off, the lines can be read back from the text, and at another
indentation they are the same lines behind other blanks.

* `DocComment.printAt`, `Member.printAt`, `Declaration.printAt`: printing part by part.
* `Declaration.write_eq_printAt`: it gives the text that is laid out from lines.
* `Text.endedLines`, `Text.shift`: the lines of a text, and the text with blanks before every line.
* `Declaration.write_indentsUniformly`: indentation is a uniform shift.
-/

namespace SchemaTypings

/-! ## Laying out lines -/

section LayLines

variable {levels : Nat} {line : String} {first second : List String}

theorem layLines_nil : layLines levels [] = "" := String.join_nil

theorem layLines_append :
    layLines levels (first ++ second) = layLines levels first ++ layLines levels second := by
  rw [layLines, List.map_append, String.join_append]
  rfl

theorem layLines_singleton : layLines levels [line] = indentation levels ++ line ++ "\n" := by
  rw [layLines, List.map_singleton, String.join_cons, String.join_nil, String.append_empty]

theorem layLines_flatMap {α : Type} (f : α → List String) (l : List α) :
    layLines levels (l.flatMap f) = String.join (l.map fun a => layLines levels (f a)) := by
  induction l with
  | nil => rfl
  | cons a l ih => rw [List.flatMap_cons, layLines_append, ih, List.map_cons, String.join_cons]

/-- What is one level further in stands behind two more blanks. -/
theorem indentation_append_indented (levels : Nat) (line : String) :
    indentation levels ++ indented line = indentation (levels + 1) ++ line := by
  have hblanks : indentation (levels + 1) = indentation levels ++ "  " := by
    rw [indentation, indentation, Nat.mul_add, List.replicate_add, String.ofList_append]
    rfl
  rw [hblanks, indented, String.append_assoc]

theorem layLines_map_indented :
    layLines levels (first.map indented) = layLines (levels + 1) first := by
  rw [layLines, List.map_map, layLines]
  congr 2
  funext line
  exact congrArg (· ++ "\n") (indentation_append_indented levels line)

end LayLines

/-! ## Comments and members -/

/-- The line of a content line inside a comment of several lines. -/
def DocComment.printStar (levels : Nat) (line : String) : String :=
  if line = "" then indentation levels ++ " *" ++ "\n"
  else indentation levels ++ " * " ++ line ++ "\n"

/-- A comment, printed from its content lines. -/
def DocComment.printAt (doc : DocComment) (levels : Nat) : String :=
  if doc.isEmpty then ""
  else match doc.content with
    | [single] => indentation levels ++ "/** " ++ single ++ " */" ++ "\n"
    | content =>
      indentation levels ++ "/**" ++ "\n" ++ String.join (content.map (printStar levels)) ++
        indentation levels ++ " */" ++ "\n"

/-- A member in the body of an interface, printed behind its comment. -/
def Member.printAt (m : Member TypeExpr) (levels : Nat) : String :=
  m.doc.printAt levels ++ indentation levels ++ m.write ++ ";" ++ "\n"

variable {levels : Nat}

theorem DocComment.layLines_map_starLine (lines : List String) :
    layLines levels (lines.map starLine) = String.join (lines.map (printStar levels)) := by
  rw [layLines, List.map_map]
  congr 2
  funext line
  rw [Function.comp_apply, starLine, printStar]
  split <;> simp only [String.append_assoc]

theorem DocComment.write_eq_printAt (doc : DocComment) (levels : Nat) :
    doc.write levels = doc.printAt levels := by
  unfold write lines printAt
  split
  · exact layLines_nil
  · match doc.content with
    | [single] => simp only [layLines_singleton, String.append_assoc]
    | [] | _ :: _ :: _ =>
      simp only [layLines_append, layLines_singleton, layLines_map_starLine, String.append_assoc]

theorem Member.writeLines_eq_printAt (m : Member TypeExpr) (levels : Nat) :
    m.writeLines levels = m.printAt levels := by
  have hdoc : layLines levels m.doc.lines = m.doc.printAt levels := m.doc.write_eq_printAt levels
  rw [writeLines, lines, layLines_append, layLines_singleton, hdoc, printAt]
  simp only [String.append_assoc]

theorem Member.lines_ne_nil (m : Member TypeExpr) : m.lines ≠ [] :=
  List.append_ne_nil_of_right_ne_nil _ (List.cons_ne_nil _ _)

/-! ## Declarations -/

namespace Declaration

mutual

/-- A declaration, printed part by part. -/
def printAt : Declaration → Nat → String
  | ⟨name, exported, declared, doc, body⟩, levels =>
    doc.printAt levels ++
      printBody name (TypeExpr.mark exported "export " ++ TypeExpr.mark declared "declare ") body levels

/-- What is declared, printed behind the modifiers. -/
def printBody (name modifiers : String) : DeclarationBody Declaration → Nat → String
  | .interface typeParams [], levels =>
    indentation levels ++ modifiers ++ "interface " ++ name ++ writeTypeParams typeParams ++
      " \x7b\x7d" ++ "\n"
  | .interface typeParams (m :: ms), levels =>
    indentation levels ++ modifiers ++ "interface " ++ name ++ writeTypeParams typeParams ++
      " \x7b" ++ "\n" ++ String.join ((m :: ms).map (·.printAt (levels + 1))) ++
      indentation levels ++ "\x7d" ++ "\n"
  | .alias type, levels =>
    indentation levels ++ modifiers ++ "type " ++ name ++ " = " ++ type.write ++ ";" ++ "\n"
  | .function params returns, levels =>
    indentation levels ++ modifiers ++ "function " ++ name ++ Param.writeList params ++ ": " ++
      returns.write ++ ";" ++ "\n"
  | .const type, levels =>
    indentation levels ++ modifiers ++ "const " ++ name ++ ": " ++ type.write ++ ";" ++ "\n"
  | .exportAlias target, levels =>
    indentation levels ++ "export \x7b " ++ target ++ " as " ++ name ++ " \x7d;" ++ "\n"
  | .importAlias target, levels =>
    indentation levels ++ modifiers ++ "import " ++ name ++ " = " ++ target ++ ";" ++ "\n"
  | .namespace [], levels =>
    indentation levels ++ modifiers ++ "namespace " ++ name ++ " \x7b\x7d" ++ "\n"
  | .namespace (d :: ds), levels =>
    indentation levels ++ modifiers ++ "namespace " ++ name ++ " \x7b" ++ "\n" ++
      printAll (d :: ds) (levels + 1) ++ indentation levels ++ "\x7d" ++ "\n"

/-- Several declarations, printed one after another. -/
def printAll : List Declaration → Nat → String
  | [], _ => ""
  | d :: ds, levels => printAt d levels ++ printAll ds levels

end

variable {head : String} {body : List String}

/-- The text between braces is one level further in. -/
theorem layLines_braced (h : body ≠ []) : layLines levels (braced head body) =
    indentation levels ++ head ++ " \x7b" ++ "\n" ++ layLines (levels + 1) body ++
      indentation levels ++ "\x7d" ++ "\n" := by
  unfold braced
  split
  · exact absurd rfl h
  · simp only [layLines_append, layLines_singleton, layLines_map_indented, String.append_assoc]

theorem braced_ne_nil : braced head body ≠ [] := by
  unfold braced
  split
  · exact List.cons_ne_nil _ _
  · exact List.cons_ne_nil _ _

theorem bodyLines_ne_nil (name modifiers : String) (body : DeclarationBody Declaration) :
    bodyLines name modifiers body ≠ [] := by
  cases body with
  | interface | «namespace» => exact braced_ne_nil
  | _ => exact List.cons_ne_nil _ _

/-- Every declaration has a line. -/
theorem lines_ne_nil (d : Declaration) : d.lines ≠ [] := by
  obtain ⟨name, exported, declared, doc, body⟩ := d
  exact List.append_ne_nil_of_right_ne_nil _ (bodyLines_ne_nil name _ body)

mutual

/-- **The text of a declaration is printed part by part.** The induction is on the declaration; the parts are a
level further in. -/
theorem write_eq_printAt : ∀ (d : Declaration) (levels : Nat), d.write levels = d.printAt levels
  | ⟨name, exported, declared, doc, body⟩, levels => by
    have hdoc : layLines levels doc.lines = doc.printAt levels := doc.write_eq_printAt levels
    rw [write, lines, layLines_append, hdoc, layLines_bodyLines, printAt]

theorem layLines_bodyLines (name modifiers : String) : ∀ (body : DeclarationBody Declaration)
    (levels : Nat), layLines levels (bodyLines name modifiers body) = printBody name modifiers body levels
  | .interface typeParams [], levels => by
    simp only [bodyLines, List.flatMap_nil, braced, layLines_singleton, printBody, String.append_assoc]
  | .interface typeParams (m :: ms), levels => by
    have hlines : (m :: ms).flatMap Member.lines ≠ [] :=
      List.append_ne_nil_of_left_ne_nil m.lines_ne_nil _
    have hmembers : layLines (levels + 1) ((m :: ms).flatMap Member.lines) =
        String.join ((m :: ms).map (·.printAt (levels + 1))) := by
      rw [layLines_flatMap]
      congr 2
      funext member
      exact member.writeLines_eq_printAt (levels + 1)
    rw [bodyLines, layLines_braced hlines, hmembers, printBody]
    simp only [String.append_assoc]
  | .alias _, _ => by simp only [bodyLines, layLines_singleton, printBody, String.append_assoc]
  | .function _ _, _ => by simp only [bodyLines, layLines_singleton, printBody, String.append_assoc]
  | .const _, _ => by simp only [bodyLines, layLines_singleton, printBody, String.append_assoc]
  | .exportAlias _, _ => by simp only [bodyLines, layLines_singleton, printBody, String.append_assoc]
  | .importAlias _, _ => by simp only [bodyLines, layLines_singleton, printBody, String.append_assoc]
  | .namespace [], levels => by
    simp only [bodyLines, allLines, braced, layLines_singleton, printBody, String.append_assoc]
  | .namespace (d :: ds), levels => by
    have hlines : allLines (d :: ds) ≠ [] := List.append_ne_nil_of_left_ne_nil d.lines_ne_nil _
    rw [bodyLines, layLines_braced hlines, layLines_allLines (d :: ds) (levels + 1), printBody]
    simp only [String.append_assoc]

theorem layLines_allLines : ∀ (ds : List Declaration) (levels : Nat),
    layLines levels (allLines ds) = printAll ds levels
  | [], _ => layLines_nil
  | d :: ds, levels => by
    have hfirst : layLines levels d.lines = d.printAt levels := write_eq_printAt d levels
    rw [allLines, layLines_append, hfirst, layLines_allLines ds levels, printAll]

end

end Declaration

/-! ## Reading lines back -/

namespace Text

/-- The lines of a text, each of which ends with a line feed. -/
def endedLines (text : String) : List String :=
  (text.toList.splitOn '\n').dropLast.map String.ofList

/-- The text with blanks before every line. -/
def shift (blanks : Nat) (text : String) : String :=
  String.join ((endedLines text).map fun line =>
    String.ofList (List.replicate blanks ' ') ++ line ++ "\n")

theorem splitOn_flatMap_lineFeed {lines : List (List Char)} (h : ∀ line ∈ lines, '\n' ∉ line) :
    (lines.flatMap (· ++ ['\n'])).splitOn '\n' = lines ++ [[]] := by
  induction lines with
  | nil => exact List.splitOn_nil '\n'
  | cons line rest ih =>
    obtain ⟨hline, hrest⟩ := List.forall_mem_cons.mp h
    rw [List.flatMap_cons, List.append_assoc, List.singleton_append,
      List.splitOn_append_cons_self_of_not_mem hline, ih hrest, List.cons_append]

/-- Lines that are laid out are read back, behind the indentation. -/
theorem endedLines_layLines {lines : List String} (h : ∀ line ∈ lines, OneLine line) (levels : Nat) :
    endedLines (layLines levels lines) = lines.map (indentation levels ++ ·) := by
  have hlaid : ∀ line ∈ lines.map (DocComment.laid levels), '\n' ∉ line := by
    intro line hline
    obtain ⟨source, hsource, rfl⟩ := List.mem_map.mp hline
    exact DocComment.not_lineFeed_laid (h source hsource) levels
  rw [endedLines, DocComment.toList_layLines, splitOn_flatMap_lineFeed hlaid, List.dropLast_concat,
    List.map_map]
  refine List.map_congr_left fun line _ => ?_
  rw [Function.comp_apply, DocComment.laid, String.ofList_append, String.ofList_toList,
    String.ofList_toList]

end Text

/-! ## The shift -/

namespace Declaration

open Text (OneLine)

/-- Two blanks a level before each line are all that indentation changes. -/
structure IndentsUniformly (d : Declaration) : Prop where
  /-- The declaration may as well be printed part by part, each at its own indentation. -/
  parts : ∀ levels, d.write levels = d.printAt levels
  /-- Its text is that without indentation, with two blanks a level before every line, -/
  shifted : ∀ levels, d.write levels = Text.shift (2 * levels) (d.write 0)
  /-- so that these are its lines, -/
  lines : ∀ levels, Text.endedLines (d.write levels) =
    (Text.endedLines (d.write 0)).map (String.ofList (List.replicate (2 * levels) ' ') ++ ·)
  /-- and there are always as many. -/
  count : ∀ levels,
    (Text.endedLines (d.write levels)).length = (Text.endedLines (d.write 0)).length
  /-- Behind the last of them nothing follows. -/
  ended : ∀ levels, ∃ front, d.write levels = front ++ "\n"

variable {d : Declaration}

/-- Without indentation the lines of the text are those it is laid out from. -/
theorem endedLines_write_zero (h : ∀ line ∈ d.lines, OneLine line) :
    Text.endedLines (d.write 0) = d.lines := by
  have hnone : indentation 0 = "" := rfl
  rw [write, Text.endedLines_layLines h, hnone]
  simp only [String.empty_append, List.map_id']

theorem exists_write_eq (d : Declaration) (levels : Nat) : ∃ front, d.write levels = front ++ "\n" := by
  refine ⟨layLines levels d.lines.dropLast ++ (indentation levels ++ d.lines.getLast d.lines_ne_nil), ?_⟩
  rw [write]
  nth_rewrite 1 [← List.dropLast_append_getLast d.lines_ne_nil]
  rw [layLines_append, layLines_singleton]
  simp only [String.append_assoc]

/-- **Indentation is a uniform shift**: if no name in a declaration has a line feed, then at every indentation
its text is that without one, with two blanks a level before every line. -/
theorem write_indentsUniformly (h : ∀ name ∈ d.names, OneLine name) : d.IndentsUniformly := by
  have hlines : ∀ line ∈ d.lines, OneLine line := oneLine_of_mem_lines d h
  have hread : ∀ levels, Text.endedLines (d.write levels) =
      (Text.endedLines (d.write 0)).map (indentation levels ++ ·) := by
    intro levels
    rw [endedLines_write_zero hlines, write, Text.endedLines_layLines hlines]
  exact {
    parts := write_eq_printAt d
    shifted := fun levels => by
      rw [Text.shift, endedLines_write_zero hlines]
      rfl
    lines := hread
    count := fun levels => by rw [hread, List.length_map]
    ended := exists_write_eq d }

/-- A namespace in a namespace, with an interface that has comments of every kind. -/
def alarms : Declaration where
  name := "messenger"
  exported := false
  declared := true
  body := .namespace [{
    name := "alarms"
    body := .namespace [{
      name := "Alarm"
      doc := { description := some "A timer.\n\nIt can be set.", deprecated := some "" }
      body := .interface ["T"] [
        .property "wake up" (.reference "T") true { description := some "At a time." },
        .method "set" [⟨"when", .keyword .number, false, false⟩] (.keyword .void)
          { description := some "Sets it.", params := [("when", "The time.")] }] }, {
      name := "Empty"
      body := .interface [] [] }] }]

theorem write_indentsUniformly_alarms :
    (∀ name ∈ alarms.names, OneLine name) ∧ alarms.IndentsUniformly := by
  have hnames : ∀ name ∈ alarms.names, OneLine name := by decide
  exact ⟨hnames, write_indentsUniformly hnames⟩

end Declaration

end SchemaTypings
