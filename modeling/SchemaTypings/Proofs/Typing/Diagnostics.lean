import SchemaTypings.Proofs.Report.Reports
import SchemaTypings.Proofs.Typing.Part

/-!
# What generating a type reports

Generating a type reports in the name of its namespace, and only a few of the problems there are:
containment of failures, references that do not fit, and members that are missing. Main statement:
`Scope.inlineType_reports`.
-/

namespace SchemaTypings

/-- The problems that generating a type can report, with their severities. -/
inductive Problem.OfTyping : Severity → Problem → Prop
  | failedTyping (label : String) (context : Context) (cause : GenerateFault) :
      OfTyping .error (.failedTyping label context cause)
  | failedMethod (label : String) (cause : GenerateFault) : OfTyping .error (.failedMethod label cause)
  | untypedProperty (path : String) : OfTyping .error (.untypedProperty path)
  | misplacedReference (target space shared : String) :
      OfTyping .warning (.misplacedReference target space shared)
  | danglingReference (target space : String) : OfTyping .warning (.danglingReference target space)
  | unsupportedProperty (path : String) : OfTyping .warning (.unsupportedProperty path)
  | unsupportedFunction (path : String) : OfTyping .warning (.unsupportedFunction path)
  | untypedPattern (path : String) : OfTyping .warning (.untypedPattern path)

namespace Scope

/-- Every problem of generating a type satisfies `P` when it is reported in this scope. -/
def Admits (scope : Scope) (P : Diagnostic → Prop) : Prop :=
  ∀ severity problem, Problem.OfTyping severity problem → P ⟨severity, some scope.space, problem⟩

variable {scope : Scope} {inline : InlineTyping} {P : Diagnostic → Prop}

theorem Admits.warn (h : scope.Admits P) {problem : Problem}
    (hp : Problem.OfTyping .warning problem) : (scope.warn problem).Reports P :=
  Reporting.reports_warn (h _ _ hp)

theorem Admits.error (h : scope.Admits P) {problem : Problem}
    (hp : Problem.OfTyping .error problem) : (scope.error problem).Reports P :=
  Reporting.reports_error (h _ _ hp)

/-! ## Places and references -/

theorem slot_reports (d : Descriptor) (kind : String) (context : Context) :
    (d.slot kind context).run.Reports P := by
  cases context <;> cases h : d.identifier? <;>
    simp only [Descriptor.slot, h] <;> exact Reporting.reports_of_nil rfl

theorem contextId_reports (d : Descriptor) (fault : GenerateFault) (context : Context) :
    (d.contextId fault context).run.Reports P := by
  cases context <;> cases h : d.id <;>
    simp only [Descriptor.contextId, h] <;> exact Reporting.reports_of_nil rfl

theorem typeOrAlias_reports (d : Descriptor) (type : TypeExpr) (kind : String)
    (context : Context) : (d.typeOrAlias type kind context).run.Reports P := by
  refine Reporting.reports_run_bind (contextId_reports d _ context) fun id _ => ?_
  cases id <;> exact Reporting.reports_of_nil rfl

theorem resolve_reports (h : scope.Admits P) (target : String) :
    (scope.resolve target).Reports P := by
  unfold resolve
  split
  · split
    · exact (h.warn (.danglingReference _ _)).bind (Reporting.reports_pure _)
    · exact Reporting.reports_pure _
  · split
    · exact Reporting.reports_pure _
    · split
      · exact (h.warn (.misplacedReference _ _ _)).bind (Reporting.reports_pure _)
      · exact (h.warn (.danglingReference _ _)).bind (Reporting.reports_pure _)

/-! ## Signatures -/

theorem returnType_reports {d : Descriptor} {ps : List Descriptor} {handling : CallbackHandling}
    (h : ∀ e, Signature.Part inline d ps handling e → (inline e).Reports P) :
    (Signature.returnType inline d ps handling).Reports P := by
  intro x hx
  rw [Signature.diagnostics_returnType, List.mem_append] at hx
  rcases hx with hx | hx
  · cases hc : Signature.consumed? handling ps with
    | none => simp [hc] at hx
    | some e => exact h e (.result hc) x (by simpa [hc] using hx)
  · split at hx
    next hv =>
      cases hr : d.returns with
      | none => simp [hr] at hx
      | some e => exact h e (.returned hr hv) x (by simpa [hr] using hx)
    next => exact absurd hx List.not_mem_nil

theorem params_reports {ps : List Descriptor} (h : ∀ e ∈ ps, (inline e).Reports P) :
    (Signature.params inline ps).Reports P := by
  intro x hx
  rw [Signature.diagnostics_params, List.mem_flatMap] at hx
  obtain ⟨e, he, hx⟩ := hx
  exact h e he x hx

theorem signature_reports {d : Descriptor} {ps : List Descriptor} {handling : CallbackHandling}
    (context : Context) (h : ∀ e, Signature.Part inline d ps handling e → (inline e).Reports P) :
    (Signature.typing inline d ps handling context).run.Reports P := by
  refine Reporting.reports_run_bind (slot_reports d _ context) fun slot _ => ?_
  refine Reporting.reports_run_bind (Reporting.reports_run_lift (returnType_reports h)) fun _ _ => ?_
  refine Reporting.reports_run_bind (Reporting.reports_run_lift
    (params_reports fun e he => h e (.param he))) fun _ _ => ?_
  exact Reporting.reports_of_nil rfl

/-! ## Objects -/

theorem propertyMember_reports (own : scope.Admits P) (d : Descriptor)
    (entry : String × Descriptor) (h : (inline entry.2).Reports P) :
    (ObjectTyping.propertyMember inline scope d entry).Reports P := by
  refine h.bind ?_
  cases (inline entry.2).value with
  | some type => exact Reporting.reports_pure _
  | none =>
    dsimp only
    split
    · exact (own.warn (.unsupportedProperty _)).bind (Reporting.reports_pure _)
    · exact (own.error (.untypedProperty _)).bind (Reporting.reports_pure _)

theorem patternType_reports (own : scope.Admits P) (d : Descriptor)
    (entry : String × Descriptor) (h : (inline entry.2).Reports P) :
    (ObjectTyping.patternType inline scope d entry).Reports P := by
  refine h.bind ?_
  cases (inline entry.2).value with
  | some type => exact Reporting.reports_pure _
  | none => exact (own.warn (.untypedPattern _)).bind (Reporting.reports_pure _)

theorem methodSignature_reports (own : scope.Admits P) {g : Descriptor} {ps : List Descriptor}
    (h : ∀ e, Signature.Part inline g ps .consume e → (inline e).Reports P) :
    (ObjectTyping.methodSignature inline scope g ps).Reports P := by
  refine (signature_reports .interface h).bind ?_
  cases (Signature.typing inline g ps .consume .interface).run.value with
  | ok generated => exact Reporting.reports_pure _
  | error cause => exact (own.error (.failedMethod _ _)).bind (Reporting.reports_pure _)

theorem methodMembers_reports (own : scope.Admits P) {d f : Descriptor}
    (hf : f ∈ d.functions.getD [])
    (h : ∀ e, ObjectTyping.Part inline d e → (inline e).Reports P) :
    (ObjectTyping.methodMembers inline scope d f).Reports P := by
  unfold ObjectTyping.methodMembers
  split
  next => exact (own.warn (.unsupportedFunction _)).bind (Reporting.reports_pure _)
  next hs =>
    unfold ObjectTyping.expandMethod
    cases hg : f.overridden? with
    | none => exact Reporting.reports_pure _
    | some g =>
      refine Reporting.reports_collect fun ps hps => methodSignature_reports own fun e he => ?_
      exact h e (.method hf (by simpa using hs) hg hps he)

theorem members_reports (own : scope.Admits P) {d : Descriptor}
    (h : ∀ e, ObjectTyping.Part inline d e → (inline e).Reports P) :
    (ObjectTyping.members inline scope d).Reports P := by
  refine (Reporting.reports_collect fun entry he => ?_).bind
    ((Reporting.reports_collectAll fun f hf => ?_).bind
      ((Reporting.reports_collect fun entry he => ?_).bind (Reporting.reports_pure _)))
  · exact propertyMember_reports own d entry (h _ (.property he))
  · exact methodMembers_reports own hf h
  · exact patternType_reports own d entry (h _ (.pattern he))

theorem additionalType_reports {d : Descriptor}
    (h : ∀ e, ObjectTyping.Part inline d e → (inline e).Reports P) :
    (ObjectTyping.additionalType inline d).Reports P := by
  unfold ObjectTyping.additionalType
  split
  · exact Reporting.reports_pure _
  · exact Reporting.reports_pure _
  · exact Reporting.reports_pure _
  next schema hs =>
    refine (h schema (.additional hs)).bind ?_
    cases (inline schema).value <;> exact Reporting.reports_pure _

theorem object_reports (own : scope.Admits P) {d : Descriptor} (context : Context)
    (h : ∀ e, ObjectTyping.Part inline d e → (inline e).Reports P) :
    (ObjectTyping.typing inline d scope context).run.Reports P := by
  refine Reporting.reports_run_bind (contextId_reports d _ context) fun id _ => ?_
  refine Reporting.reports_run_bind (Reporting.reports_run_lift (members_reports own h)) fun _ _ => ?_
  refine Reporting.reports_run_bind (Reporting.reports_run_lift (additionalType_reports h))
    fun _ _ => ?_
  exact Reporting.reports_of_nil rfl

/-! ## Descriptors of every kind -/

theorem union_reports {d : Descriptor} {es : List Descriptor} (context : Context)
    (h : ∀ e ∈ es, (inline e).Reports P) :
    (d.unionTyping inline es context).run.Reports P := by
  refine Reporting.reports_run_bind (contextId_reports d _ context) fun id _ => ?_
  refine Reporting.reports_run_bind (Reporting.reports_run_lift (Reporting.reports_collect h))
    fun types _ => ?_
  dsimp only
  split <;> exact Reporting.reports_of_nil rfl

theorem array_reports {d items : Descriptor} (context : Context)
    (h : (inline items).Reports P) : (d.arrayTyping inline items context).run.Reports P := by
  refine Reporting.reports_run_bind (Reporting.reports_run_lift h) fun item _ => ?_
  exact typeOrAlias_reports d _ _ context

theorem reference_reports (own : scope.Admits P) (d : Descriptor) (target : String)
    (context : Context) : (d.referenceTyping target scope context).run.Reports P := by
  refine Reporting.reports_run_bind (slot_reports d _ context) fun slot _ => ?_
  refine Reporting.reports_run_bind (Reporting.reports_run_lift (resolve_reports own target))
    fun _ _ => ?_
  exact Reporting.reports_of_nil rfl

theorem staticValue_reports (d : Descriptor) (value : Json) (context : Context) :
    (d.staticValueTyping value context).run.Reports P := by
  unfold Descriptor.staticValueTyping
  split
  · exact Reporting.reports_of_nil rfl
  · refine Reporting.reports_run_bind (slot_reports d _ context) fun slot _ => ?_
    exact Reporting.reports_of_nil rfl

/-- One case for each kind: it reports what its parts report, and its own problems. -/
theorem kindTyping_reports (own : scope.Admits P) {d : Descriptor} {kind : Kind}
    (hk : d.kind? = some kind) (context : Context)
    (h : ∀ e, d.Part inline e → (inline e).Reports P) :
    (d.kindTyping inline scope kind context).run.Reports P := by
  cases kind with
  | null => cases context <;> exact Reporting.reports_of_nil rfl
  | any => exact typeOrAlias_reports d _ _ context
  | boolean => exact typeOrAlias_reports d _ _ context
  | integer => exact typeOrAlias_reports d _ _ context
  | number => exact typeOrAlias_reports d _ _ context
  | string => exact typeOrAlias_reports d _ _ context
  | enumString choices => exact typeOrAlias_reports d _ _ context
  | function => exact signature_reports context fun e he => h e (.signature hk he)
  | array items => exact array_reports context (h items (.item hk))
  | union es => exact union_reports context fun e he => h e (.choice hk he)
  | reference target => exact reference_reports own d target context
  | object => exact object_reports own context fun e he => h e (.member hk he)
  | staticValue value => exact staticValue_reports d value context

theorem typing_reports (own : scope.Admits P) {d : Descriptor} (context : Context)
    (h : ∀ d', d.overridden? = some d' → ∀ e, d'.Part inline e → (inline e).Reports P) :
    (scope.typing inline d context).run.Reports P := by
  unfold typing
  cases hd : d.overridden? with
  | none => exact Reporting.reports_of_nil rfl
  | some d' =>
    dsimp only
    cases hk : d'.kind? with
    | none => exact Reporting.reports_of_nil rfl
    | some kind =>
      refine Reporting.reports_run_bind (kindTyping_reports own hk context (h d' hd)) fun _ _ => ?_
      exact Reporting.reports_of_nil rfl

theorem contain_reports (own : scope.Admits P) (d : Descriptor) (context : Context)
    {generating : Generating (Option Generated)} (h : generating.run.Reports P) :
    (scope.contain d context generating).Reports P := by
  refine h.bind ?_
  cases generating.run.value with
  | ok generated => exact Reporting.reports_pure _
  | error cause => exact (own.error (.failedTyping _ _ _)).bind (Reporting.reports_pure _)

theorem inlineWithin_reports (own : scope.Admits P) (levels : Nat) (d : Descriptor) :
    (scope.inlineWithin levels d).Reports P := by
  induction levels generalizing d with
  | zero => exact Reporting.reports_pure _
  | succ levels ih =>
    refine (contain_reports own d .inline ?_).bind (Reporting.reports_pure _)
    exact typing_reports own .inline fun _ _ e _ => ih e

theorem generate_reports (own : scope.Admits P) (d : Descriptor) (context : Context) :
    (scope.generate d context).Reports P :=
  contain_reports own d context (typing_reports own context fun _ _ e _ =>
    inlineWithin_reports own _ e)

/-- **Generating a type reports problems of types only**, all in the name of the namespace. -/
theorem inlineType_reports (own : scope.Admits P) (d : Descriptor) :
    (scope.inlineType d).Reports P :=
  (generate_reports own d .inline).bind (Reporting.reports_pure _)

theorem declaration_reports (own : scope.Admits P) (d : Descriptor) (context : Context) :
    (scope.declaration d context).Reports P :=
  (generate_reports own d context).bind (Reporting.reports_pure _)

end Scope

end SchemaTypings
