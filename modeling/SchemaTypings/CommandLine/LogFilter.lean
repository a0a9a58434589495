import SchemaTypings.CommandLine.Directive
import SchemaTypings.Files.Path

/-!
# Log filters

The filter of the log is given by a text: the name of a level holds for both parts of the program, and
anything else is a list of directives separated by commas. Without a text, warnings and errors are
shown. Directives that are not understood are left out with a notice, and a text without any other
shows errors.
-/

namespace SchemaTypings

/-- A filter of the log. -/
structure LogFilter where
  directives : List Directive
  /-- Lines about the directives that are not understood. -/
  notices : List String := []

namespace LogFilter

/-- What is said of a directive that is not understood. -/
def notice (text : String) (fault : DirectiveFault) : String :=
  "ignoring \x60" ++ text ++ "\x60: " ++ fault.message

/-- The filter without directives that are not understood. -/
def ofPieces : List String → LogFilter
  | [] => ⟨[], []⟩
  | piece :: rest =>
    let filter := ofPieces rest
    match Directive.ofText piece with
    | .ok directive => { filter with directives := directive :: filter.directives }
    | .error fault => { filter with notices := notice piece fault :: filter.notices }

/-- The filter that a list of directives describes. -/
def ofText (s : String) : LogFilter :=
  let filter := ofPieces ((Path.split ',' s).filter (· ≠ ""))
  if filter.directives.isEmpty then
    { filter with directives := [⟨"", .none, some .error⟩] }
  else filter

/-- The notices as a text. -/
def noticeText (filter : LogFilter) : String :=
  String.join (filter.notices.map (· ++ "\n"))

/-- The targets that a level alone holds for. -/
def ownTargets : List String := ["webext_typings", "webext_typings_core"]

/-- The filter with one level for the own targets. -/
def ofLevel (level : Level) : LogFilter :=
  { directives := ownTargets.map (⟨·, .none, some level⟩) }

/-- The filter that a setting describes. -/
def ofSetting : Option String → LogFilter
  | none => ofLevel .warn
  | some s =>
    match Level.named? s with
    | some level => ofLevel level
    | none => ofText s

/-- The directive that decides about a record: the most specific one, of equally specific ones the
last. -/
def directiveFor? (filter : LogFilter) (r : LogRecord) : Option Directive :=
  (filter.directives.filter (·.fits r)).foldl
    (fun best d =>
      match best with
      | none => some d
      | some b => if b.givesWayTo d then some d else some b)
    none

/-- Whether a record is shown. -/
def shows (filter : LogFilter) (r : LogRecord) : Bool :=
  match (filter.directiveFor? r).bind (·.level) with
  | some level => r.level.rank ≤ level.rank
  | none => false

/-- The lines of the log. -/
def lines (filter : LogFilter) (events : List Event) : List String :=
  ((events.map Event.record).filter filter.shows).map LogRecord.line

end LogFilter

end SchemaTypings
