import SchemaTypings.Proofs.Assembly.Body
import SchemaTypings.Proofs.Assembly.Entries
import SchemaTypings.Proofs.Functions.OverloadSet

/-!
# What entries and namespaces report

An entry reports the problems of types and a few of its own, all in the name of its namespace. The body
adds one warning for each declaration that it leaves out.

* `Problem.OfEntry`: the problems that an entry can report.
* `Entry.declarations_reports`: an entry reports nothing else.
* `Body.diagnostics_push`: what is left out of a body is reported, and nothing else is.
* `NamespaceSchema.generate_tagged`: every diagnostic of a namespace is reported in its name.
-/

namespace SchemaTypings

/-- The problems that an entry of a namespace can report, with their severities. -/
inductive Problem.OfEntry : Severity → Problem → Prop
  | ofTyping {severity : Severity} {problem : Problem} (h : OfTyping severity problem) :
      OfEntry severity problem
  | typeMerging (label target : String) : OfEntry .warning (.typeMerging label target)
  | functionTypeWithoutId (label : String) : OfEntry .error (.functionTypeWithoutId label)
  | unnamedFunction (cause : GenerateFault) : OfEntry .error (.unnamedFunction cause)
  | tooManyVariants (name : String) (count : Nat) : OfEntry .warning (.tooManyVariants name count)
  | unsupportedEvent (path : String) : OfEntry .warning (.unsupportedEvent path)
  | failedEvent (space label : String) (cause : GenerateFault) :
      OfEntry .error (.failedEvent space label cause)
  | unusablePropertyKind (path kind : String) :
      OfEntry .warning (.unusablePropertyKind path kind)

/-- No entry says that a name is declared twice. -/
theorem Problem.OfEntry.ne_duplicateDeclaration {severity : Severity} {problem : Problem}
    (h : OfEntry severity problem) (path : String) : problem ≠ .duplicateDeclaration path := by
  cases h with
  | ofTyping h => cases h <;> nofun
  | _ => nofun

namespace Scope

/-- Every problem of an entry satisfies `P` when it is reported in this scope. -/
def AdmitsEntries (scope : Scope) (P : Diagnostic → Prop) : Prop :=
  ∀ severity problem, Problem.OfEntry severity problem → P ⟨severity, some scope.space, problem⟩

variable {scope : Scope} {P : Diagnostic → Prop}

theorem AdmitsEntries.admits (h : scope.AdmitsEntries P) : scope.Admits P :=
  fun severity problem hp => h severity problem (.ofTyping hp)

theorem AdmitsEntries.warn (h : scope.AdmitsEntries P) {problem : Problem}
    (hp : Problem.OfEntry .warning problem) : (scope.warn problem).Reports P :=
  Reporting.reports_warn (h _ _ hp)

theorem AdmitsEntries.error (h : scope.AdmitsEntries P) {problem : Problem}
    (hp : Problem.OfEntry .error problem) : (scope.error problem).Reports P :=
  Reporting.reports_error (h _ _ hp)

end Scope

variable {scope : Scope} {P : Diagnostic → Prop} {d : Descriptor}

/-! ## Types and properties -/

theorem EntryTyping.typeEntry_reports (own : scope.AdmitsEntries P) (d : Descriptor) :
    (typeEntry d scope).Reports P := by
  unfold typeEntry
  split
  · exact (own.warn (.typeMerging _ _)).bind (Reporting.reports_pure _)
  · refine (Scope.inlineType_reports own.admits d).bind ?_
    cases (scope.inlineType d).value with
    | none => exact Reporting.reports_pure _
    | some type =>
      cases d.id with
      | none => exact (own.error (.functionTypeWithoutId _)).bind (Reporting.reports_pure _)
      | some id => exact Reporting.reports_pure _
  · exact Scope.declaration_reports own.admits d _
  · exact Scope.declaration_reports own.admits d _

theorem EntryTyping.propertyEntry_reports (own : scope.AdmitsEntries P) (key : String)
    (d : Descriptor) : (propertyEntry key d scope).Reports P := by
  have hunusable : ∀ kind, (do
      scope.warn (.unusablePropertyKind (scope.space ++ "." ++ key) kind)
      pure none : Reporting (Option Declaration)).Reports P := fun kind =>
    (own.warn (.unusablePropertyKind _ _)).bind (Reporting.reports_pure _)
  unfold propertyEntry
  dsimp only
  split
  · exact (own.warn (.ofTyping (.unsupportedProperty _))).bind (Reporting.reports_pure _)
  · split
    · exact Scope.declaration_reports own.admits _ _
    · split
      · exact (Scope.inlineType_reports own.admits d).bind (Reporting.reports_pure _)
      · exact hunusable _
    · exact hunusable _

/-! ## Functions -/

theorem FunctionTyping.expand_reports (own : scope.AdmitsEntries P) (d : Descriptor) :
    (expand d scope).Reports P := by
  cases hf : d.overridden? with
  | none =>
    rw [expand, hf]
    exact Reporting.reports_pure _
  | some f =>
    cases hn : f.identifier? with
    | none =>
      rw [expand, hf]
      dsimp only
      rw [hn]
      exact (own.error (.unnamedFunction _)).bind (Reporting.reports_pure _)
    | some name =>
      rw [expand_eq_expandNamed scope hf hn]
      intro x hx
      rw [diagnostics_expandNamed, List.mem_append, List.mem_append] at hx
      rcases hx with hcount | hprepare | hvariants
      · split at hcount
        · rw [List.mem_singleton.mp hcount]
          exact own _ _ (.tooManyVariants _ _)
        · exact absurd hcount List.not_mem_nil
      · exact prepare_reports own.admits f name x hprepare
      · obtain ⟨ps, -, hx⟩ := List.mem_flatMap.mp hvariants
        -- the scope of the variants reports in the same name
        have hextended : (scope.extend (prepare f name scope).value.2).Admits P := own.admits
        exact overload_reports hextended hn ps x hx

/-! ## Events -/

namespace EventTyping

theorem listener_reports (own : scope.Admits P) (event : Descriptor) (ps : List Descriptor) :
    (listener event scope ps).run.Reports P := by
  refine Reporting.reports_run_bind ?_ fun _ _ => Reporting.reports_of_nil rfl
  exact Scope.signature_reports .inline fun e _ => Scope.inlineType_reports own e

theorem listeners_reports (own : scope.Admits P) (event : Descriptor)
    (lists : List (List Descriptor)) : (listeners event scope lists).run.Reports P := by
  induction lists with
  | nil => exact Reporting.reports_of_nil rfl
  | cons ps rest ih =>
    refine Reporting.reports_run_bind (listener_reports own event ps) fun _ _ => ?_
    exact Reporting.reports_run_bind ih fun _ _ => Reporting.reports_of_nil rfl

theorem listenerType_reports (own : scope.Admits P) (event : Descriptor) :
    (listenerType event scope).run.Reports P := by
  unfold listenerType
  dsimp only
  split
  · exact listener_reports own event _
  · split
    · exact Reporting.reports_of_nil rfl
    · refine Reporting.reports_run_bind (listeners_reports own event _) fun _ _ => ?_
      exact Reporting.reports_of_nil rfl

theorem typing_reports (own : scope.Admits P) (event : Descriptor) :
    (typing event scope).run.Reports P := by
  unfold typing
  cases event.identifier? with
  | none => exact Reporting.reports_of_nil rfl
  | some name =>
    refine Reporting.reports_run_bind (listenerType_reports own event) fun callback _ => ?_
    split
    · refine Reporting.reports_run_bind (Reporting.reports_run_lift ?_)
        fun _ _ => Reporting.reports_of_nil rfl
      exact Scope.params_reports fun e _ => Scope.inlineType_reports own e
    · exact Reporting.reports_of_nil rfl

end EventTyping

theorem EntryTyping.eventEntry_reports (own : scope.AdmitsEntries P) (d : Descriptor) :
    (eventEntry d scope).Reports P := by
  unfold eventEntry
  split
  · exact (own.warn (.unsupportedEvent _)).bind (Reporting.reports_pure _)
  · unfold EventTyping.expand
    cases d.overridden? with
    | none => exact Reporting.reports_pure _
    | some event =>
      refine (EventTyping.typing_reports own.admits event).bind ?_
      cases (EventTyping.typing event scope).run.value with
      | ok decl => exact Reporting.reports_pure _
      | error cause => exact (own.error (.failedEvent _ _ _)).bind (Reporting.reports_pure _)

/-- **An entry reports its own problems and those of types only**, all in the name of its
namespace. -/
theorem Entry.declarations_reports (own : scope.AdmitsEntries P) (entry : Entry) :
    (entry.declarations scope).Reports P := by
  cases entry with
  | type d => exact (EntryTyping.typeEntry_reports own d).bind (Reporting.reports_pure _)
  | function d => exact FunctionTyping.expand_reports own d
  | event d => exact (EntryTyping.eventEntry_reports own d).bind (Reporting.reports_pure _)
  | property key d =>
    exact (EntryTyping.propertyEntry_reports own key d).bind (Reporting.reports_pure _)

/-! ## Bodies -/

namespace Body

/-- Declarations in their order, each with whether it is kept behind a body. -/
def marked : List Declaration → List Declaration → List (Declaration × Bool)
  | _, [] => []
  | body, d :: rest =>
    if isDropped body d then (d, false) :: marked body rest
    else (d, true) :: marked (body ++ [d]) rest

/-- The declarations that are kept. -/
def kept (marks : List (Declaration × Bool)) : List Declaration :=
  (marks.filter (·.2)).map Prod.fst

/-- The declarations that are left out. -/
def leftOut (marks : List (Declaration × Bool)) : List Declaration :=
  (marks.filter (!·.2)).map Prod.fst

/-- The warning for a declaration that is left out. -/
def skipped (space : String) (d : Declaration) : Diagnostic :=
  ⟨.warning, some space, .duplicateDeclaration (space ++ "." ++ d.name)⟩

theorem map_fst_marked (body declarations : List Declaration) :
    (marked body declarations).map Prod.fst = declarations := by
  induction declarations generalizing body with
  | nil => rfl
  | cons d rest ih =>
    rw [marked]
    split <;> rw [List.map_cons, ih]

theorem keep_eq_append_kept (body declarations : List Declaration) :
    keep body declarations = body ++ kept (marked body declarations) := by
  induction declarations generalizing body with
  | nil => exact (List.append_nil body).symm
  | cons d rest ih =>
    rw [keep, marked]
    split
    · exact ih body
    · rw [ih, List.append_assoc]
      rfl

/-- **What is left out of a body is reported**, each declaration once, and nothing else is. -/
theorem diagnostics_push (space : String) (body declarations : List Declaration) :
    (push space body declarations).diagnostics =
      (leftOut (marked body declarations)).map (skipped space) := by
  induction declarations generalizing body with
  | nil => rfl
  | cons d rest ih =>
    rw [push, marked, isDropped]
    split
    · rw [Reporting.diagnostics_bind, ih]
      rfl
    · exact ih _

end Body

/-! ## Namespaces -/

namespace NamespaceSchema

variable {schema : NamespaceSchema} {catalog : Catalog}

theorem generateEntries_reports
    (own : ∀ body, (schema.scope catalog body).AdmitsEntries P)
    (hskipped : ∀ decl, P (Body.skipped schema.name decl)) (body : List Declaration)
    (entries : List Entry) : (schema.generateEntries catalog body entries).Reports P := by
  induction entries generalizing body with
  | nil => exact Reporting.reports_pure _
  | cons entry rest ih =>
    refine (entry.declarations_reports (own body)).bind (Reporting.Reports.bind ?_ (ih _))
    intro x hx
    rw [Body.diagnostics_push] at hx
    obtain ⟨decl, -, rfl⟩ := List.mem_map.mp hx
    exact hskipped decl

theorem diagnostics_generate :
    (schema.generate catalog).diagnostics =
      (schema.generateEntries catalog [] schema.entries).diagnostics := by
  rw [generate, Reporting.diagnostics_bind, Reporting.diagnostics_bind, Reporting.diagnostics_note,
    Reporting.diagnostics_pure, List.append_nil, List.append_nil]

/-- Every diagnostic of a namespace is reported in its name. -/
theorem generate_tagged :
    ∀ x ∈ (schema.generate catalog).diagnostics, x.space = some schema.name := by
  rw [diagnostics_generate]
  exact generateEntries_reports (fun _ _ _ _ => rfl) (fun _ => rfl) [] schema.entries

end NamespaceSchema

end SchemaTypings
