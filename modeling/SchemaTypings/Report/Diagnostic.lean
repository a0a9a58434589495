import SchemaTypings.Report.Problem

/-!
# Diagnostics

A diagnostic is a problem with its severity and the namespace it belongs to; problems of whole files
and fragments belong to none. The diagnostics of a run are a list in the order of reporting.
-/

namespace SchemaTypings

/-- How bad a problem is. -/
inductive Severity where
  /-- The output is usable but poorer. -/
  | warning
  /-- A declaration, a fragment or a file is missing from the output. -/
  | error
deriving DecidableEq

/-- The name of a severity. -/
def Severity.name : Severity → String
  | .warning => "warning"
  | .error => "error"

/-- A reported problem. -/
structure Diagnostic where
  severity : Severity
  space : Option String
  problem : Problem

namespace Diagnostic

/-- The line that shows a diagnostic. -/
def message (d : Diagnostic) : String :=
  match d.space with
  | some space => d.severity.name ++ " [" ++ space ++ "]: " ++ d.problem.message
  | none => d.severity.name ++ ": " ++ d.problem.message

/-- Whether the diagnostic is a warning. -/
def isWarning (d : Diagnostic) : Bool := d.severity = .warning

/-- Whether the diagnostic is an error. -/
def isError (d : Diagnostic) : Bool := d.severity = .error

end Diagnostic

/-- The diagnostics of a run, in order. -/
abbrev Diagnostics := List Diagnostic

namespace Diagnostics

/-- The number of warnings. -/
def warningCount (ds : Diagnostics) : Nat := ds.countP Diagnostic.isWarning

/-- The number of errors. -/
def errorCount (ds : Diagnostics) : Nat := ds.countP Diagnostic.isError

/-- Whether there is an error. -/
def hasErrors (ds : Diagnostics) : Bool := 0 < errorCount ds

/-- The first error. -/
def firstError? (ds : Diagnostics) : Option Diagnostic := ds.find? Diagnostic.isError

/-- Every diagnostic is a warning or an error. -/
theorem warningCount_add_errorCount (ds : Diagnostics) :
    warningCount ds + errorCount ds = ds.length := by
  induction ds with
  | nil => rfl
  | cons d ds ih =>
    have h : d.severity = .warning ∨ d.severity = .error := by cases d.severity <;> simp
    simp only [warningCount, errorCount, List.length_cons] at ih ⊢
    rcases h with h | h <;>
      simp [Diagnostic.isWarning, Diagnostic.isError, h] at ih ⊢ <;> omega

end Diagnostics

end SchemaTypings
