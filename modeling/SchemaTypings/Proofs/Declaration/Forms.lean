import SchemaTypings.Declaration.Basic

/-!
# Forms of declarations

Which space a declaration binds its name in, whether it may repeat and whether references may point at
it is a matter of its form.
-/

namespace SchemaTypings

/-- What kind of thing is declared. -/
inductive Form where
  | interface
  | alias
  | function
  | const
  | exportAlias
  | importAlias
  | namespace
deriving DecidableEq

namespace Declaration

/-- The form of a declaration. -/
def form (d : Declaration) : Form :=
  match d.body with
  | .interface _ _ => .interface
  | .alias _ => .alias
  | .function _ _ => .function
  | .const _ => .const
  | .exportAlias _ => .exportAlias
  | .importAlias _ => .importAlias
  | .namespace _ => .namespace

/-- Whether a function is declared. -/
def isFunction (d : Declaration) : Bool := d.form == .function

/-- Whether a local declaration is exported under another name. -/
def isExportAlias (d : Declaration) : Bool := d.form == .exportAlias

/-- The parameters of a function. -/
def params (d : Declaration) : List (Param TypeExpr) :=
  match d.body with
  | .function params _ => params
  | _ => []

/-- The return type of a function. -/
def returns? (d : Declaration) : Option TypeExpr :=
  match d.body with
  | .function _ returns => some returns
  | _ => none

theorem inTypeSpace_iff {d : Declaration} :
    d.inTypeSpace = true ↔ d.form = .interface ∨ d.form = .alias := by
  unfold inTypeSpace form
  cases d.body <;> simp

/-- Constants, functions and exports are no types. -/
theorem not_inTypeSpace_of_form {d : Declaration}
    (h : d.form = .const ∨ d.form = .function ∨ d.form = .exportAlias) :
    d.inTypeSpace = false := by
  rw [Bool.eq_false_iff]
  intro ht
  rcases inTypeSpace_iff.mp ht with hf | hf <;> rw [hf] at h <;> simp at h

theorem mayRepeat_iff {d : Declaration} :
    d.mayRepeat = true ↔ d.form = .interface ∨ d.form = .function ∨ d.form = .namespace := by
  unfold mayRepeat form
  cases d.body <;> simp

theorem declaresType_iff {d : Declaration} :
    d.declaresType = true ↔ d.inTypeSpace = true ∨ d.form = .function := by
  unfold declaresType inTypeSpace form
  cases d.body <;> simp

theorem not_isFunction_of_inTypeSpace {d : Declaration} (h : d.inTypeSpace = true) :
    d.isFunction = false := by
  unfold isFunction
  rcases inTypeSpace_iff.mp h with hf | hf <;> rw [hf] <;> rfl

theorem not_isExportAlias_of_inTypeSpace {d : Declaration} (h : d.inTypeSpace = true) :
    d.isExportAlias = false := by
  unfold isExportAlias
  rcases inTypeSpace_iff.mp h with hf | hf <;> rw [hf] <;> rfl

end Declaration

end SchemaTypings
