import SchemaTypings.Report.Log
import SchemaTypings.Text.Alphanumeric
import SchemaTypings.Text.Blank

/-!
# Directives

A directive sets the most detailed level that is shown of some records. It is written

* `level`: of all records;
* `target` or `target=level`: of the records whose target begins so, in full detail without a level;
* `target[span{field}]=level`, where every part inside and around the brackets may be missing: of such
  records with the field. A span, or a value for the field, asks for more than any record has.

Of several directives that fit a record, the most specific one decides.
-/

namespace SchemaTypings

namespace Level

/-- A text in lower case, as far as it is ASCII. -/
def lower (s : String) : String := String.ofList (s.toList.map Char.toLower)

/-- The level with this name, in any case. -/
def named? (s : String) : Option Level := all.find? fun level => lower level.name == lower s

/-- The level with this rank. -/
def ranked? (n : Nat) : Option Level := all.find? fun level => level.rank == n

/-- A number in decimal digits, perhaps with a plus sign before them. -/
def number? (s : String) : Option Nat :=
  let digits := match s.toList with
    | '+' :: rest => rest
    | characters => characters
  if digits.isEmpty || !digits.all Char.isDigit then none
  else some (digits.foldl (fun n c => 10 * n + (c.toNat - '0'.toNat)) 0)

/-- The most detailed level shown, by its name or its rank; `off` and rank zero show nothing. -/
def bound? (s : String) : Option (Option Level) :=
  match number? s with
  | some 0 => some none
  | some n => (ranked? n).map some
  | none => if lower s == "off" then some none else (named? s).map some

end Level

/-- What a record needs besides its target. -/
inductive Condition where
  | none
  /-- A field with this name. -/
  | field (name : String)
  /-- More than any record has. -/
  | unmet

/-- A directive. -/
structure Directive where
  /-- What the target of a record begins with. -/
  target : String
  condition : Condition
  /-- The most detailed level shown; `none` shows nothing. -/
  level : Option Level

/-- Why a directive is not understood. -/
inductive DirectiveFault where
  | malformed
  | unknownLevel
deriving DecidableEq

/-- The wording of a fault. -/
def DirectiveFault.message : DirectiveFault → String
  | malformed => "invalid filter directive"
  | unknownLevel =>
    "error parsing level filter: expected one of \"off\", \"error\", \"warn\", \"info\", " ++
      "\"debug\", \"trace\", or a number 0-5"

/-- A directive as it is written. -/
structure Directive.Parts where
  target : List Char
  condition : Condition
  /-- What stands behind `=`, if there is one. -/
  level : Option (List Char)

namespace Directive

/-! ## Reading -/

/-- Whether a directive may begin with this character. -/
def isStart (c : Char) : Bool :=
  c = '[' || c = '-' || c = ':' || c = '_' || Text.isAlphanumeric c

/-- The level behind `=`; nothing there means full detail. -/
def levelOf (text : List Char) : Except DirectiveFault (Option Level) :=
  if text.isEmpty then .ok (some .trace)
  else match Level.bound? (String.ofList text) with
    | some level => .ok level
    | none => .error .unknownLevel

/-- The condition that a field filter sets. -/
def fieldCondition (text : List Char) : Condition :=
  if text.contains '=' then .unmet else .field (String.ofList text)

/-- The condition between brackets, and the text behind them. -/
def bracketed (text : List Char) : Except DirectiveFault (Condition × List Char) :=
  let span := text.takeWhile fun c => c ≠ ']' && c ≠ '\x7b'
  match text.drop span.length with
  | ']' :: rest => .ok (.unmet, rest)
  | _ :: body =>
    let field := body.takeWhile (· ≠ '\x7d')
    match body.drop field.length with
    | _ :: ']' :: rest =>
      if field.isEmpty then .error .malformed
      else .ok (if span.isEmpty then fieldCondition field else .unmet, rest)
    | _ => .error .malformed
  | [] => .error .malformed

/-- The parts of a directive that does not begin with blanks. -/
def parts (text : List Char) : Except DirectiveFault Parts := do
  let target := text.takeWhile fun c => c ≠ '=' && c ≠ '['
  match text.drop target.length with
  | [] => .ok ⟨target, .none, none⟩
  | '=' :: level => .ok ⟨target, .none, some level⟩
  | _ :: rest =>
    let (condition, behind) ← bracketed rest
    match behind with
    | '=' :: level => .ok ⟨target, condition, some level⟩
    | _ => if behind.all Text.isBlank then .ok ⟨target, condition, none⟩ else .error .malformed

/-- What the parts of a directive mean. A target alone that is a level stands for all targets. -/
def ofParts (p : Parts) : Except DirectiveFault Directive :=
  let target := String.ofList p.target
  match p.level, p.condition with
  | some level, condition => do pure ⟨target, condition, ← levelOf level⟩
  | none, .none =>
    match Level.bound? target with
    | some level => .ok ⟨"", .none, level⟩
    | none => .ok ⟨target, .none, some .trace⟩
  | none, condition => .ok ⟨target, condition, some .trace⟩

/-- What the parts of a directive mean when blanks come before it. They shift each part onto the text
before it: no target begins so, and a level still has its `=`. -/
def ofIndented (p : Parts) : Except DirectiveFault Directive :=
  match p.level with
  | some _ => .error .unknownLevel
  | none => .ok ⟨String.ofList p.target, .unmet, some .trace⟩

/-- The directive that a text describes. -/
def ofText (s : String) : Except DirectiveFault Directive :=
  let text := s.toList.dropWhile Text.isBlank
  match text with
  | [] => .error .malformed
  | c :: _ =>
    if !isStart c then .error .malformed
    else parts text >>= if text == s.toList then ofParts else ofIndented

/-! ## Deciding -/

/-- Whether the directive is about the record. -/
def fits (d : Directive) (r : LogRecord) : Bool :=
  d.target.toList.isPrefixOf r.target.toList &&
    match d.condition with
    | .none => true
    | .field name => r.hasField name
    | .unmet => false

/-- Whether a condition asks for no more than another one; field names are compared as texts. -/
def weaker : Condition → Condition → Bool
  | .field a, .field b => a ≤ b
  | .field _, _ => false
  | _, _ => true

/-- Whether the second of two directives for a record decides: its target is longer, or as long and its
condition asks for no less. -/
def givesWayTo (a b : Directive) : Bool :=
  a.target.utf8ByteSize < b.target.utf8ByteSize ||
    (a.target.utf8ByteSize == b.target.utf8ByteSize && weaker a.condition b.condition)

end Directive

end SchemaTypings
