import SchemaTypings.Assembly.Module
import SchemaTypings.Proofs.Documentation.Typing

/-!
# Declaration files without documentation

Documentation passes through functions, events and namespaces as it passes through types: hoisting carries it
along, duplicates are told by names alone, and nothing ever reads it. A catalog without documentation
therefore comes to the same declaration file without comments.

* `FunctionTyping.expand_mirrors`, `EventTyping.expand_mirrors`: functions and events are mirrored.
* `NamespaceSchema.generate_mirrors`: so are namespaces.
* `Catalog.assemble_undocumented`: documentation never changes types.
-/

namespace SchemaTypings

open Reporting (Mirrors MirrorsRun mirrors_pure mirrors_note mirrors_warn mirrors_error
  mirrors_collect mirrorsRun_pure mirrorsRun_throw mirrorsRun_lift)

/-! ## Functions -/

namespace FunctionTyping

variable (scope : Scope)

theorem isHoistable_undocumented (p : Descriptor) : isHoistable p.undocumented = isHoistable p := by
  unfold isHoistable
  rw [Descriptor.kind?_undocumented, Descriptor.isCallback_undocumented,
    Descriptor.properties_undocumented, List.isEmpty_map]
  cases p.kind? with
  | none => rfl
  | some kind => cases kind <;> rfl

theorem undocumented_asNamedType (p : Descriptor) (name : String) :
    (asNamedType p name).undocumented = asNamedType p.undocumented name := by cases p; rfl

theorem isTaken_undocumented (made : List Declaration) (name : String) :
    isTaken scope.undocumented (made.map Declaration.undocumented) name = isTaken scope made name := by
  simp only [isTaken, Scope.isDefined_undocumented, List.any_map, Function.comp_def,
    Declaration.name_undocumented]

theorem hoistParam_mirrors (functionName : String) (made : List Declaration) (p : Descriptor) :
    Mirrors (Prod.map Descriptor.undocumented (List.map Declaration.undocumented))
      (hoistParam functionName scope made p)
      (hoistParam functionName scope.undocumented (made.map Declaration.undocumented)
        p.undocumented) := by
  unfold hoistParam
  rw [Descriptor.name_undocumented, isHoistable_undocumented]
  cases p.name with
  | none => exact mirrors_pure rfl
  | some paramName =>
    dsimp only
    rw [isTaken_undocumented, ← undocumented_asNamedType, ← Descriptor.undocumented_asReferenceTo]
    split
    · exact mirrors_pure rfl
    · split
      · exact mirrors_pure rfl
      · refine (scope.declaration_mirrors _ .namespace).bind ?_
        cases (scope.declaration (asNamedType p (hoistedName functionName paramName))
          .namespace).value with
        | none => exact mirrors_pure rfl
        | some d =>
          have happended : (made ++ [d]).map Declaration.undocumented =
              made.map Declaration.undocumented ++ [d.undocumented] := List.map_append
          exact mirrors_pure (congrArg (Prod.mk _) happended.symm)

theorem hoistParams_mirrors (functionName : String) (made : List Declaration) (ps : List Descriptor) :
    Mirrors (Prod.map (List.map Descriptor.undocumented) (List.map Declaration.undocumented))
      (hoistParams functionName scope made ps)
      (hoistParams functionName scope.undocumented (made.map Declaration.undocumented)
        (ps.map Descriptor.undocumented)) := by
  induction ps generalizing made with
  | nil => exact mirrors_pure rfl
  | cons p rest ih =>
    refine (hoistParam_mirrors scope functionName made p).bind ?_
    exact (ih _).bind (mirrors_pure rfl)

theorem prepare_mirrors (d : Descriptor) (name : String) :
    Mirrors (Prod.map (List.map Descriptor.undocumented) (List.map Declaration.undocumented))
      (prepare d name scope) (prepare d.undocumented name scope.undocumented) := by
  unfold prepare
  rw [Descriptor.params_undocumented, Variants.innerPositions_undocumented]
  split
  · exact mirrors_pure rfl
  · exact hoistParams_mirrors scope name [] d.params

theorem undocumented_hide (name : String) (d : Declaration) :
    (hide name d).undocumented = hide name d.undocumented := by cases d; rfl

theorem overload_mirrors (d : Descriptor) (name : String) (ps : List Descriptor) :
    Mirrors (Option.map Declaration.undocumented) (overload d name scope ps)
      (overload d.undocumented name scope.undocumented (ps.map Descriptor.undocumented)) := by
  refine (Signature.typing_mirrors scope.inlineType_mirrors d ps .consume .namespace).handle
    (fun generated => mirrors_pure ?_) fun _ _ => (mirrors_error rfl _ _).bind (mirrors_pure rfl)
  have hdeclaration : generated.undocumented.declaration? =
      generated.declaration?.map Declaration.undocumented := by cases generated <;> rfl
  rw [hdeclaration]
  split
  · rw [Option.map_map, Option.map_map]
    exact congrArg (generated.declaration?.map ·) (funext fun d => (undocumented_hide name d).symm)
  · rfl

theorem undocumented_reservedExport (name : String) (overloads : List Declaration) :
    (reservedExport name overloads).map Declaration.undocumented =
      reservedExport name (overloads.map Declaration.undocumented) := by
  unfold reservedExport
  rw [List.isEmpty_map]
  split <;> rfl

theorem expandNamed_mirrors (d : Descriptor) (name : String) :
    Mirrors (List.map Declaration.undocumented) (expandNamed d name scope)
      (expandNamed d.undocumented name scope.undocumented) := by
  have hdeclared : Mirrors (List.map Declaration.undocumented)
      (do
        let prepared ← prepare d name scope
        let overloads ← Reporting.collect (overload d name (scope.extend prepared.2))
          (Variants.all prepared.1)
        pure (prepared.2 ++ overloads ++ reservedExport name overloads))
      (do
        let prepared ← prepare d.undocumented name scope.undocumented
        let overloads ← Reporting.collect
          (overload d.undocumented name (scope.undocumented.extend prepared.2))
          (Variants.all prepared.1)
        pure (prepared.2 ++ overloads ++ reservedExport name overloads)) := by
    refine (prepare_mirrors scope d name).bind ?_
    rcases (prepare d name scope).value with ⟨params, made⟩
    dsimp only [Prod.map]
    rw [Variants.all_undocumented, ← Scope.extend_undocumented]
    refine (mirrors_collect _ fun ps _ => overload_mirrors (scope.extend made) d name ps).bind
      (mirrors_pure ?_)
    rw [List.map_append, List.map_append, undocumented_reservedExport]
  unfold expandNamed
  rw [Descriptor.params_undocumented, Variants.innerPositions_undocumented]
  dsimp only
  split
  · exact (mirrors_warn rfl _ _).bind hdeclared
  · exact hdeclared

/-- A function is mirrored. -/
theorem expand_mirrors (d : Descriptor) :
    Mirrors (List.map Declaration.undocumented) (expand d scope)
      (expand d.undocumented scope.undocumented) := by
  unfold expand
  rw [Descriptor.overridden?_undocumented]
  cases d.overridden? with
  | none => exact mirrors_pure rfl
  | some f =>
    dsimp only [Option.map_some]
    rw [Descriptor.identifier?_undocumented]
    cases f.identifier? with
    | none => exact (mirrors_error rfl _ _).bind (mirrors_pure rfl)
    | some name => exact expandNamed_mirrors scope f name

end FunctionTyping

/-! ## Events -/

namespace EventTyping

variable (scope : Scope)

theorem listener_mirrors (event : Descriptor) (ps : List Descriptor) :
    MirrorsRun TypeExpr.undocumented (listener event scope ps)
      (listener event.undocumented scope.undocumented (ps.map Descriptor.undocumented)) := by
  refine (Signature.typing_mirrors scope.inlineType_mirrors event ps .keep .inline).bind
    fun generated => mirrorsRun_pure ?_
  cases generated <;> rfl

theorem listeners_mirrors (event : Descriptor) (lists : List (List Descriptor)) :
    MirrorsRun (List.map TypeExpr.undocumented) (listeners event scope lists)
      (listeners event.undocumented scope.undocumented
        (lists.map (List.map Descriptor.undocumented))) := by
  induction lists with
  | nil => exact mirrorsRun_pure rfl
  | cons ps rest ih =>
    exact (listener_mirrors scope event ps).bind fun first => ih.bind fun others => mirrorsRun_pure rfl

theorem shiftedParams_undocumented (leading rest : List Descriptor) :
    shiftedParams (leading.map Descriptor.undocumented) (rest.map Descriptor.undocumented) =
      (shiftedParams leading rest).map (List.map Descriptor.undocumented) := by
  induction leading with
  | nil => rfl
  | cons p leading ih =>
    simp only [List.map_cons, shiftedParams, ih, List.map_append, List.map_map, Function.comp_def,
      Descriptor.undocumented_withOptional]

theorem listenerType_mirrors (event : Descriptor) :
    MirrorsRun TypeExpr.undocumented (listenerType event scope)
      (listenerType event.undocumented scope.undocumented) := by
  have hleading : (event.params.map Descriptor.undocumented).takeWhile (·.isOptional) =
      (event.params.takeWhile (·.isOptional)).map Descriptor.undocumented := by
    rw [List.takeWhile_map]
    simp only [Function.comp_def, Descriptor.isOptional_undocumented]
  unfold listenerType
  simp only [Descriptor.params_undocumented, hleading, List.length_map, ← List.map_drop,
    List.isEmpty_map, Descriptor.hasExtraParameters_undocumented, shiftedParams_undocumented]
  split
  · exact listener_mirrors scope event event.params
  · split
    · exact mirrorsRun_throw _ _
    · refine (listeners_mirrors scope event _).bind fun types => mirrorsRun_pure ?_
      exact congrArg TypeExpr.union (TypeExpr.undocumentedAll_eq_map types).symm

theorem undocumented_eventObject (callback : TypeExpr) (extra : List (Param TypeExpr)) :
    (eventObject callback extra).undocumented =
      eventObject callback.undocumented (extra.map TypeExpr.undocumentedParam) := by
  rw [← TypeExpr.undocumentedParams_eq_map]
  rfl

theorem typing_mirrors (event : Descriptor) :
    MirrorsRun Declaration.undocumented (typing event scope)
      (typing event.undocumented scope.undocumented) := by
  unfold typing
  rw [Descriptor.identifier?_undocumented, Descriptor.hasExtraParameters_undocumented,
    Descriptor.extraParams_undocumented]
  cases event.identifier? with
  | none => exact mirrorsRun_throw _ _
  | some name =>
    refine (listenerType_mirrors scope event).bind fun callback => ?_
    split
    · refine (mirrorsRun_lift
        (Signature.params_mirrors scope.inlineType_mirrors event.extraParams)).bind fun extra => ?_
      refine mirrorsRun_pure ?_
      rw [Descriptor.undocumented_declared, ← undocumented_eventObject]
      rfl
    · exact mirrorsRun_pure
        (event.undocumented_declared name (.const (.generic eventInterface [callback]))).symm

/-- An event is mirrored. -/
theorem expand_mirrors (d : Descriptor) :
    Mirrors (Option.map Declaration.undocumented) (expand d scope)
      (expand d.undocumented scope.undocumented) := by
  unfold expand
  rw [Descriptor.overridden?_undocumented]
  cases d.overridden? with
  | none => exact mirrors_pure rfl
  | some event =>
    exact (typing_mirrors scope event).handle (fun _ => mirrors_pure rfl)
      fun _ _ => (mirrors_error rfl _ _).bind (mirrors_pure rfl)

end EventTyping

/-! ## Entries -/

namespace EntryTyping

variable (scope : Scope) (d : Descriptor)

theorem typeEntry_mirrors :
    Mirrors (Option.map Declaration.undocumented) (typeEntry d scope)
      (typeEntry d.undocumented scope.undocumented) := by
  unfold typeEntry
  rw [Descriptor.kind?_undocumented, Descriptor.id_undocumented]
  cases d.kind? with
  | none => exact scope.declaration_mirrors d .interface
  | some kind =>
    cases kind with
    | reference target => exact (mirrors_warn rfl _ _).bind (mirrors_pure rfl)
    | function =>
      refine (scope.inlineType_mirrors.types d).bind ?_
      cases (scope.inlineType d).value with
      | none => exact mirrors_pure rfl
      | some type =>
        cases d.id with
        | none => exact (mirrors_error rfl _ _).bind (mirrors_pure rfl)
        | some name =>
          exact mirrors_pure (congrArg some (d.undocumented_declared name (.alias type)).symm)
    | staticValue value => exact scope.declaration_mirrors d .namespace
    | _ => exact scope.declaration_mirrors d .interface

theorem eventEntry_mirrors :
    Mirrors (Option.map Declaration.undocumented) (eventEntry d scope)
      (eventEntry d.undocumented scope.undocumented) := by
  unfold eventEntry
  rw [Descriptor.isUnsupported_undocumented]
  split
  · exact (mirrors_warn rfl _ _).bind (mirrors_pure rfl)
  · exact EventTyping.expand_mirrors scope d

theorem propertyEntry_mirrors (key : String) :
    Mirrors (Option.map Declaration.undocumented) (propertyEntry key d scope)
      (propertyEntry key d.undocumented scope.undocumented) := by
  have hnamed : { d with name := some key }.undocumented = { d.undocumented with name := some key } := by
    cases d; rfl
  have hkind : ∀ kind : Kind, kind.undocumented.isConstantLike = kind.isConstantLike := by
    intro kind
    cases kind <;> rfl
  have hconst : Mirrors (Option.map Declaration.undocumented)
      (do
        let type ← scope.inlineType d
        pure (type.map fun type => d.declared key (.const type)))
      (do
        let type ← scope.undocumented.inlineType d.undocumented
        pure (type.map fun type => d.undocumented.declared key (.const type))) := by
    refine (scope.inlineType_mirrors.types d).bind (mirrors_pure ?_)
    cases (scope.inlineType d).value with
    | none => rfl
    | some type => exact congrArg some (d.undocumented_declared key (.const type)).symm
  unfold propertyEntry
  rw [Descriptor.isUnsupported_undocumented, Descriptor.kind?_undocumented]
  split
  · exact (mirrors_warn rfl _ _).bind (mirrors_pure rfl)
  · cases d.kind? with
    | none => exact (mirrors_warn rfl _ _).bind (mirrors_pure rfl)
    | some kind =>
      cases kind with
      | staticValue value =>
        dsimp only [Option.map_some, Kind.undocumented]
        rw [← hnamed]
        exact scope.declaration_mirrors _ .namespace
      | _ =>
        first
        | exact hconst
        | exact (mirrors_warn rfl _ _).bind (mirrors_pure rfl)

end EntryTyping

/-- An entry without documentation. -/
def Entry.undocumented : Entry → Entry
  | type d => type d.undocumented
  | function d => function d.undocumented
  | event d => event d.undocumented
  | property key d => property key d.undocumented

/-- An entry asks for the same declarations, without comments. -/
theorem Entry.declarations_mirrors (entry : Entry) (scope : Scope) :
    Mirrors (List.map Declaration.undocumented) (entry.declarations scope)
      (entry.undocumented.declarations scope.undocumented) := by
  have hlist : ∀ {x y : Reporting (Option Declaration)},
      Mirrors (Option.map Declaration.undocumented) x y →
        Mirrors (List.map Declaration.undocumented) (return (← x).toList) (return (← y).toList) :=
    fun h => h.bind (mirrors_pure Option.toList_map)
  cases entry with
  | type d => exact hlist (EntryTyping.typeEntry_mirrors scope d)
  | function d => exact FunctionTyping.expand_mirrors scope d
  | event d => exact hlist (EntryTyping.eventEntry_mirrors scope d)
  | property key d => exact hlist (EntryTyping.propertyEntry_mirrors scope d key)

/-! ## Namespaces -/

/-- Names are taken or not, whatever the comments say. -/
theorem Body.push_mirrors (space : String) (body made : List Declaration) :
    Mirrors (List.map Declaration.undocumented) (push space body made)
      (push space (body.map Declaration.undocumented) (made.map Declaration.undocumented)) := by
  induction made generalizing body with
  | nil => exact mirrors_pure rfl
  | cons d rest ih =>
    have happended : (body ++ [d]).map Declaration.undocumented =
        body.map Declaration.undocumented ++ [d.undocumented] := List.map_append
    simp only [List.map_cons, push, List.any_map, Function.comp_def,
      Declaration.sharesName_undocumented, Declaration.mayRepeat_undocumented, ← happended]
    split
    · exact (mirrors_warn rfl _ _).bind (ih body)
    · exact ih (body ++ [d])

namespace NamespaceSchema

variable (schema : NamespaceSchema) (catalog : Catalog)

theorem entries_undocumented : schema.undocumented.entries = schema.entries.map Entry.undocumented := by
  have hproperties : schema.properties.map
      ((fun entry => Entry.property entry.1 entry.2) ∘ Descriptor.undocumentedEntry) =
        schema.properties.map (Entry.undocumented ∘ fun entry => .property entry.1 entry.2) :=
    List.map_congr_left fun ⟨_, _⟩ _ => rfl
  simp only [entries, undocumented, List.map_append, List.map_map, hproperties]
  rfl

theorem generateEntries_mirrors (body : List Declaration) (es : List Entry) :
    Mirrors (List.map Declaration.undocumented) (schema.generateEntries catalog body es)
      (schema.undocumented.generateEntries catalog.undocumented
        (body.map Declaration.undocumented) (es.map Entry.undocumented)) := by
  induction es generalizing body with
  | nil => exact mirrors_pure rfl
  | cons entry rest ih =>
    refine (entry.declarations_mirrors (schema.scope catalog body)).bind ?_
    refine (Body.push_mirrors schema.name body _).bind (ih _)

/-- A namespace is mirrored. -/
theorem generate_mirrors :
    Mirrors (List.map Declaration.undocumented) (schema.generate catalog)
      (schema.undocumented.generate catalog.undocumented) := by
  unfold generate
  rw [entries_undocumented]
  exact (schema.generateEntries_mirrors catalog [] schema.entries).bind
    ((mirrors_note _ _).bind (mirrors_pure rfl))

end NamespaceSchema

/-! ## The module -/

namespace Assembly

variable (options : Options)

theorem namespaces_mirrors (catalog : Catalog) (schemas : List NamespaceSchema) :
    Mirrors (List.map Declaration.undocumented) (namespaces options catalog schemas)
      (namespaces options catalog.undocumented (schemas.map NamespaceSchema.undocumented)) := by
  refine mirrors_collect schemas fun schema _ => ?_
  have hname : schema.undocumented.name = schema.name := rfl
  rw [hname]
  split
  · exact (mirrors_note _ _).bind (mirrors_pure rfl)
  · refine (schema.generate_mirrors catalog).bind (mirrors_pure (congrArg some ?_))
    rw [namespaceDeclaration, namespaceDeclaration, Declaration.undocumented,
      Declaration.undocumentedBody_namespace]
    rfl

/-- What stands around the namespaces has no comments and knows the namespaces by their names. -/
theorem undocumented_statements (spaces : List Declaration) :
    (statements options spaces).map Declaration.undocumented =
      statements options (spaces.map Declaration.undocumented) := by
  have hhost : (hostDeclaration options).undocumented = hostDeclaration options := by
    unfold hostDeclaration
    rw [Declaration.undocumented, Declaration.undocumentedBody, List.map_map]
    rfl
  have hevent : eventDeclaration.undocumented = eventDeclaration := rfl
  have hambient : ∀ name body, (ambient name body).undocumented =
      ambient name (body.map Declaration.undocumented) := fun name body =>
    congrArg (ambient name) (Declaration.undocumentedAll_eq_map body)
  have haliases : (importAliases options.rootNamespace spaces).map Declaration.undocumented =
      importAliases options.rootNamespace (spaces.map Declaration.undocumented) := by
    simp only [importAliases, List.map_map, Function.comp_def, Declaration.name_undocumented]
    rfl
  simp only [statements, List.map_append, List.map_cons, List.map_nil, List.map_map,
    Function.comp_def, hhost, hevent, hambient, haliases]

end Assembly

/-- **Documentation never changes types.** Take all descriptions, deprecation marks, documentation of choices,
permissions and insignificant keys out of a catalog: the module for it is the module for the catalog
without its comments. As many problems are reported, each of the same severity and for the same
namespace. -/
theorem Catalog.assemble_undocumented (catalog : Catalog) (options : Options) :
    let plain := catalog.undocumented.assemble options
    let full := catalog.assemble options
    plain.value = full.value.undocumented ∧
      plain.value.undocumented = full.value.undocumented ∧
        Diagnostics.Alike full.diagnostics plain.diagnostics := by
  intro plain full
  have hspaces := Assembly.namespaces_mirrors options catalog catalog.namespaces
  have hmirrors : Mirrors Module.undocumented full plain := by
    refine hspaces.bind ((mirrors_note _ _).bind (mirrors_pure ?_))
    exact congrArg Module.mk (Assembly.undocumented_statements options _).symm
  refine ⟨hmirrors.value, ?_, hmirrors.diagnostics⟩
  rw [hmirrors.value, Module.undocumented_undocumented]

end SchemaTypings
