import SchemaTypings.Proofs.Documentation.Declaration
import SchemaTypings.Proofs.Documentation.Descriptor
import SchemaTypings.Proofs.Report.Mirrors
import SchemaTypings.Proofs.Typing.Contexts

/-!
# Types without documentation

A generator that is given descriptors without documentation makes what it makes of the descriptors, without
comments, and reports alike. The labels of descriptors are different, because a descriptor without a name is
shown as a whole; they only stand in messages.

* `Scope.undocumented`: what a generator sees, without documentation.
* `InlineTyping.Mirrors`: nested types are mirrored.
* `Scope.inlineWithin_mirrors`: they are, however deep they go.
-/

namespace SchemaTypings

open Reporting (Mirrors MirrorsRun mirrors_pure mirrors_note mirrors_warn mirrors_error
  mirrors_collect mirrors_collectAll mirrorsRun_pure mirrorsRun_throw mirrorsRun_lift)

/-! ## What generators see -/

/-- The namespace without documentation and permissions. -/
def NamespaceSchema.undocumented (schema : NamespaceSchema) : NamespaceSchema :=
  { name := schema.name, sourceFile := schema.sourceFile
    types := schema.types.map Descriptor.undocumented
    functions := schema.functions.map Descriptor.undocumented
    events := schema.events.map Descriptor.undocumented
    properties := schema.properties.map Descriptor.undocumentedEntry }

/-- The catalog without documentation. -/
def Catalog.undocumented (catalog : Catalog) : Catalog :=
  ⟨catalog.namespaces.map NamespaceSchema.undocumented⟩

theorem any_id_undocumented (ds : List Descriptor) (id : String) :
    (ds.map Descriptor.undocumented).any (fun d => d.id == some id) =
      ds.any fun d => d.id == some id := by
  simp only [List.any_map, Function.comp_def, Descriptor.id_undocumented]

theorem NamespaceSchema.hasType_undocumented (schema : NamespaceSchema) (id : String) :
    schema.undocumented.hasType id = schema.hasType id := by
  simp only [hasType, findType?, List.isSome_find?, undocumented, any_id_undocumented]

theorem Catalog.hasType_undocumented (catalog : Catalog) (name id : String) :
    catalog.undocumented.hasType name id = catalog.hasType name id := by
  unfold hasType find? undocumented
  rw [List.find?_map, Option.any_map]
  simp only [Function.comp_def, NamespaceSchema.hasType_undocumented]
  rfl

/-- The scope without documentation. -/
def Scope.undocumented (scope : Scope) : Scope :=
  { space := scope.space
    knownTypes := scope.knownTypes.map Descriptor.undocumented
    catalog := scope.catalog.undocumented
    defined := scope.defined.map Declaration.undocumented }

/-- What was made, without comments. -/
def Generated.undocumented : Generated → Generated
  | type t => type t.undocumented
  | declaration d => declaration d.undocumented
  | member m => member (TypeExpr.undocumentedMember m)

namespace Scope

variable (scope : Scope)

theorem isDefined_undocumented (name : String) :
    scope.undocumented.isDefined name = scope.isDefined name := by
  simp only [isDefined, undocumented, List.any_map, Function.comp_def,
    Declaration.declaresType_undocumented, Declaration.name_undocumented]

theorem isKnown_undocumented (id : String) :
    scope.undocumented.isKnown id = scope.isKnown id := any_id_undocumented scope.knownTypes id

theorem extend_undocumented (made : List Declaration) :
    (scope.extend made).undocumented = scope.undocumented.extend (made.map Declaration.undocumented) := by
  simp only [extend, undocumented, List.map_append]

/-- References are found as before. -/
theorem resolve_mirrors (target : String) :
    Mirrors id (scope.resolve target) (scope.undocumented.resolve target) := by
  have hlookup : ∀ space id, scope.undocumented.catalog.hasType space id =
      scope.catalog.hasType space id := Catalog.hasType_undocumented scope.catalog
  have hlocal : scope.undocumented.isLocal target = scope.isLocal target := by
    simp only [isLocal, hlookup, isKnown_undocumented, isDefined_undocumented]
    rfl
  unfold resolve
  simp only [hlookup, hlocal]
  split
  · split
    · exact (mirrors_warn rfl _ _).bind (mirrors_pure rfl)
    · exact mirrors_pure rfl
  · split
    · exact mirrors_pure rfl
    · split
      · exact (mirrors_warn rfl _ _).bind (mirrors_pure rfl)
      · exact (mirrors_warn rfl _ _).bind (mirrors_pure rfl)

end Scope

/-! ## Places -/

theorem Descriptor.docComment_undocumented (d : Descriptor) : d.undocumented.docComment = .none := by
  rw [Descriptor.docComment, Descriptor.description_undocumented, Descriptor.deprecation?_undocumented]
  rfl

theorem Descriptor.undocumented_declared (d : Descriptor) (name : String)
    (body : DeclarationBody Declaration) :
    (d.declared name body).undocumented =
      d.undocumented.declared name (Declaration.undocumentedBody body) := by
  simp only [Descriptor.declared, Descriptor.docComment_undocumented]
  rfl

theorem Descriptor.undocumented_place (d : Descriptor) (type : TypeExpr) (slot : Slot) :
    (d.place type slot).undocumented = d.undocumented.place type.undocumented slot := by
  cases slot with
  | inline => rfl
  | declared name => exact congrArg Generated.declaration (d.undocumented_declared name (.const type))
  | member name =>
    simp only [Descriptor.place, Descriptor.isOptional_undocumented, Descriptor.docComment_undocumented]
    rfl

theorem Descriptor.slot_mirrors (d : Descriptor) (kind : String) (context : Context) :
    MirrorsRun (fun slot => slot) (d.slot kind context) (d.undocumented.slot kind context) := by
  unfold Descriptor.slot
  rw [Descriptor.identifier?_undocumented]
  split
  · exact mirrorsRun_pure rfl
  · exact mirrorsRun_pure rfl
  · exact mirrorsRun_pure rfl
  · exact mirrorsRun_throw _ _
  · exact mirrorsRun_throw _ _

/-- Only the faults for missing names may be different. -/
theorem Descriptor.contextId_mirrors (d : Descriptor) (fault fault' : GenerateFault)
    (context : Context) :
    MirrorsRun (fun name => name) (d.contextId fault context) (d.undocumented.contextId fault' context) := by
  unfold Descriptor.contextId
  rw [Descriptor.id_undocumented]
  cases context with
  | inline => exact mirrorsRun_pure rfl
  | «namespace» | interface =>
    cases d.id with
    | none => exact mirrorsRun_throw _ _
    | some name => exact mirrorsRun_pure rfl

theorem Descriptor.typeOrAlias_mirrors (d : Descriptor) (type : TypeExpr) (kind kind' : String)
    (context : Context) :
    MirrorsRun Generated.undocumented (d.typeOrAlias type kind context)
      (d.undocumented.typeOrAlias type.undocumented kind' context) := by
  refine (d.contextId_mirrors _ _ context).bind fun id => ?_
  cases id with
  | none => exact mirrorsRun_pure rfl
  | some name =>
    exact mirrorsRun_pure
      (congrArg Generated.declaration (d.undocumented_declared name (.alias type)).symm)

/-! ## Nested types -/

/-- The types of nested descriptors without documentation are mirrored. No type has a comment of its own;
comments stand deeper. -/
structure InlineTyping.Mirrors (inline inline' : InlineTyping) : Prop where
  types : ∀ d : Descriptor,
    Reporting.Mirrors (Option.map TypeExpr.undocumented) (inline d) (inline' d.undocumented)
  bare : ∀ d t, (inline d).value = some t → t.isDocumented = false

variable {inline inline' : InlineTyping} (h : inline.Mirrors inline')

/-! ## Signatures -/

namespace Signature

theorem resultParameter?_undocumented (ps : List Descriptor) :
    resultParameter? (ps.map Descriptor.undocumented) =
      (resultParameter? ps).map Descriptor.undocumented := by
  unfold resultParameter?
  rw [List.find?_map]
  simp only [Function.comp_def, Descriptor.isCallback_undocumented]
  cases ps.find? (·.isCallback) with
  | none => rfl
  | some callback =>
    simp only [Option.map_some, Descriptor.params_undocumented]
    rcases callback.params with _ | ⟨result, _ | _⟩ <;> rfl

theorem consumed?_undocumented (handling : CallbackHandling) (ps : List Descriptor) :
    consumed? handling (ps.map Descriptor.undocumented) =
      (consumed? handling ps).map Descriptor.undocumented := by
  cases handling with
  | consume => exact resultParameter?_undocumented ps
  | keep => rfl

theorem visible_undocumented (handling : CallbackHandling) (ps : List Descriptor) :
    visible handling (ps.map Descriptor.undocumented) =
      (visible handling ps).map Descriptor.undocumented := by
  cases handling with
  | consume =>
    simp only [visible, List.filter_map, Function.comp_def, Descriptor.isCallback_undocumented]
  | keep => rfl

/-- Without descriptions there is nothing to say about a signature. -/
theorem doc_undocumented (d : Descriptor) (shown : List Descriptor) :
    doc d.undocumented (shown.map Descriptor.undocumented) = .none := by
  have hparams : paramDocs (shown.map Descriptor.undocumented) = [] := by
    refine List.filterMap_eq_nil_iff.mpr ?_
    rintro ⟨p, index⟩ hp
    obtain ⟨q, -, rfl⟩ := List.mem_map.mp (List.fst_mem_of_mem_zipIdx hp)
    dsimp only
    rw [Descriptor.description_undocumented]
    rfl
  rw [doc, Descriptor.docComment_undocumented, hparams]
  rfl

theorem undocumented_place (d : Descriptor) (shown : List Descriptor)
    (params : List (Param TypeExpr)) (returns : TypeExpr) (slot : Slot) :
    (place d shown params returns slot).undocumented =
      place d.undocumented (shown.map Descriptor.undocumented)
        (params.map TypeExpr.undocumentedParam) returns.undocumented slot := by
  cases slot <;>
    simp only [place, doc_undocumented, Generated.undocumented, TypeExpr.undocumented,
      TypeExpr.undocumentedMember, TypeExpr.undocumentedParams_eq_map, Declaration.undocumented,
      Declaration.undocumentedBody]

include h

theorem typeOr_mirrors (fallback : TypeExpr) (d? : Option Descriptor) :
    Mirrors TypeExpr.undocumented (typeOr inline fallback d?)
      (typeOr inline' fallback.undocumented (d?.map Descriptor.undocumented)) := by
  cases d? with
  | none => exact mirrors_pure rfl
  | some d =>
    refine (h.types d).bind (mirrors_pure ?_)
    cases (inline d).value <;> rfl

/-- Whether the callback hands over anything does not hang on comments. -/
theorem declaredOr_mirrors (d : Descriptor) {own : TypeExpr} (hown : own.isDocumented = false) :
    Mirrors TypeExpr.undocumented (declaredOr inline d own)
      (declaredOr inline' d.undocumented own.undocumented) := by
  unfold declaredOr
  rw [TypeExpr.isVoid_undocumented hown, Descriptor.returns_undocumented]
  split
  · exact typeOr_mirrors h own d.returns
  · exact mirrors_pure rfl

theorem isDocumented_typeOr {fallback : TypeExpr} (hf : fallback.isDocumented = false)
    (d? : Option Descriptor) : (typeOr inline fallback d?).value.isDocumented = false := by
  rw [value_typeOr]
  cases d? with
  | none => exact hf
  | some d =>
    cases ht : (inline d).value with
    | none => rw [Option.bind_some, ht]; exact hf
    | some t => rw [Option.bind_some, ht]; exact h.bare d t ht

theorem returnType_mirrors (d : Descriptor) (ps : List Descriptor) (handling : CallbackHandling) :
    Mirrors TypeExpr.undocumented (returnType inline d ps handling)
      (returnType inline' d.undocumented (ps.map Descriptor.undocumented) handling) := by
  unfold returnType
  rw [consumed?_undocumented, Descriptor.isAsync_undocumented]
  refine (typeOr_mirrors h (.keyword .void) _).bind ?_
  refine (declaredOr_mirrors h d (isDocumented_typeOr h rfl _)).bind (mirrors_pure ?_)
  split <;> rfl

theorem params_mirrors (ps : List Descriptor) :
    Mirrors (List.map TypeExpr.undocumentedParam) (params inline ps)
      (params inline' (ps.map Descriptor.undocumented)) := by
  have hfrom : ∀ index, Mirrors (List.map TypeExpr.undocumentedParam) (paramsFrom inline index ps)
      (paramsFrom inline' index (ps.map Descriptor.undocumented)) := by
    induction ps with
    | nil => exact fun _ => mirrors_pure rfl
    | cons p rest ih =>
      intro index
      refine (typeOr_mirrors h .any (some p)).bind ((ih (index + 1)).bind (mirrors_pure ?_))
      simp only [paramName, Descriptor.name_undocumented, Descriptor.isOptional_undocumented]
      rfl
  exact hfrom 0

theorem typing_mirrors (d : Descriptor) (ps : List Descriptor) (handling : CallbackHandling)
    (context : Context) :
    MirrorsRun Generated.undocumented (typing inline d ps handling context)
      (typing inline' d.undocumented (ps.map Descriptor.undocumented) handling context) := by
  unfold typing
  rw [visible_undocumented]
  refine (d.slot_mirrors _ context).bind fun slot => ?_
  refine (mirrorsRun_lift (returnType_mirrors h d ps handling)).bind fun returns => ?_
  refine (mirrorsRun_lift (params_mirrors h (visible handling ps))).bind fun params => ?_
  exact mirrorsRun_pure (undocumented_place d _ params returns slot).symm

end Signature

/-! ## Objects -/

namespace ObjectTyping

variable (scope : Scope)

theorem undocumented_patternMembers (patterns : List (String × TypeExpr × DocComment)) :
    (patternMembers patterns).map TypeExpr.undocumentedMember =
      patternMembers (patterns.map fun (pattern, type, _) => (pattern, type.undocumented, .none)) := by
  have hindex : ∀ types : List TypeExpr, (indexMember types).map TypeExpr.undocumentedMember =
      indexMember (types.map TypeExpr.undocumented) := by
    rintro (_ | ⟨first, _ | ⟨second, rest⟩⟩)
    · rfl
    · rfl
    · simp only [indexMember, List.map_cons, List.map_nil, TypeExpr.undocumentedMember,
        TypeExpr.undocumented, TypeExpr.undocumentedAll, TypeExpr.undocumentedAll_eq_map]
  simp only [patternMembers, List.partition_eq_filter_filter, List.map_append, hindex,
    List.filter_map, List.map_map]
  rfl

theorem undocumented_objectType (d : Descriptor) (members : List (Member TypeExpr))
    (additional : Option TypeExpr) :
    (objectType d members additional).undocumented =
      objectType d.undocumented (members.map TypeExpr.undocumentedMember)
        (additional.map TypeExpr.undocumented) := by
  have hcombine : ∀ parts : List TypeExpr,
      (combine parts).undocumented = combine (parts.map TypeExpr.undocumented) := by
    rintro (_ | ⟨first, _ | ⟨second, rest⟩⟩)
    · rfl
    · rfl
    · simp only [combine, List.map_cons, TypeExpr.undocumented, TypeExpr.undocumentedAll,
        TypeExpr.undocumentedAll_eq_map]
  have hown : (if members.isEmpty then [] else [TypeExpr.object members]).map TypeExpr.undocumented =
      if (members.map TypeExpr.undocumentedMember).isEmpty then []
      else [TypeExpr.object (members.map TypeExpr.undocumentedMember)] := by
    rw [List.isEmpty_map]
    split
    · rfl
    · rw [← TypeExpr.undocumentedMembers_eq_map]
      rfl
  unfold objectType
  dsimp only
  rw [hcombine, List.map_append, List.map_append, hown, Descriptor.isInstanceOf_undocumented,
    ← Option.toList_map, ← Option.toList_map, Option.map_map]
  rfl

theorem undocumented_namedBody (d : Descriptor) (members : List (Member TypeExpr))
    (additional : Option TypeExpr) :
    Declaration.undocumentedBody (namedBody d members additional) =
      namedBody d.undocumented (members.map TypeExpr.undocumentedMember)
        (additional.map TypeExpr.undocumented) := by
  unfold namedBody
  rw [Descriptor.isInstanceOf_undocumented, Option.isNone_map, ← undocumented_objectType]
  split <;> rfl

include h

theorem propertyMember_mirrors (d : Descriptor) (entry : String × Descriptor) :
    Mirrors (Option.map TypeExpr.undocumentedMember) (propertyMember inline scope d entry)
      (propertyMember inline' scope.undocumented d.undocumented
        (Descriptor.undocumentedEntry entry)) := by
  obtain ⟨key, p⟩ := entry
  refine (h.types p).bind ?_
  cases (inline p).value with
  | some type =>
    refine mirrors_pure ?_
    simp only [Descriptor.isOptional_undocumented, Descriptor.docComment_undocumented]
    rfl
  | none =>
    simp only [Option.map_none, Descriptor.isUnsupported_undocumented]
    split
    · exact (mirrors_warn rfl _ _).bind (mirrors_pure rfl)
    · exact (mirrors_error rfl _ _).bind (mirrors_pure rfl)

theorem methodSignature_mirrors (d : Descriptor) (ps : List Descriptor) :
    Mirrors (Option.map TypeExpr.undocumentedMember) (methodSignature inline scope d ps)
      (methodSignature inline' scope.undocumented d.undocumented
        (ps.map Descriptor.undocumented)) := by
  refine (Signature.typing_mirrors h d ps .consume .interface).handle (fun generated => ?_)
    fun _ _ => (mirrors_error rfl _ _).bind (mirrors_pure rfl)
  refine mirrors_pure ?_
  cases generated <;> rfl

theorem methodMembers_mirrors (d f : Descriptor) :
    Mirrors (List.map TypeExpr.undocumentedMember) (methodMembers inline scope d f)
      (methodMembers inline' scope.undocumented d.undocumented f.undocumented) := by
  unfold methodMembers
  rw [Descriptor.isUnsupported_undocumented]
  split
  · exact (mirrors_warn rfl _ _).bind (mirrors_pure rfl)
  · unfold expandMethod
    rw [Descriptor.overridden?_undocumented]
    cases f.overridden? with
    | none => exact mirrors_pure rfl
    | some g =>
      dsimp only [Option.map_some]
      rw [Descriptor.params_undocumented, Variants.all_undocumented]
      exact mirrors_collect _ fun ps _ => methodSignature_mirrors h scope g ps

theorem patternType_mirrors (d : Descriptor) (entry : String × Descriptor) :
    Mirrors (Option.map fun (pattern, type, _) => (pattern, type.undocumented, .none))
      (patternType inline scope d entry)
      (patternType inline' scope.undocumented d.undocumented
        (Descriptor.undocumentedEntry entry)) := by
  obtain ⟨pattern, p⟩ := entry
  refine (h.types p).bind ?_
  cases (inline p).value with
  | some type => exact mirrors_pure (by rw [Descriptor.docComment_undocumented]; rfl)
  | none => exact (mirrors_warn rfl _ _).bind (mirrors_pure rfl)

theorem members_mirrors (d : Descriptor) :
    Mirrors (List.map TypeExpr.undocumentedMember) (members inline scope d)
      (members inline' scope.undocumented d.undocumented) := by
  unfold members
  rw [Descriptor.properties_undocumented, Descriptor.functions_undocumented,
    Descriptor.patternProperties_undocumented]
  refine (mirrors_collect _ fun entry _ => propertyMember_mirrors h scope d entry).bind ?_
  refine (mirrors_collectAll _ fun f _ => methodMembers_mirrors h scope d f).bind ?_
  refine (mirrors_collect _ fun entry _ => patternType_mirrors h scope d entry).bind
    (mirrors_pure ?_)
  rw [List.map_append, List.map_append, undocumented_patternMembers]

theorem additionalType_mirrors (d : Descriptor) :
    Mirrors (Option.map TypeExpr.undocumented) (additionalType inline d)
      (additionalType inline' d.undocumented) := by
  unfold additionalType
  rw [Descriptor.additionalProperties_undocumented]
  rcases d.additionalProperties with _ | (_ | _) | schema
  · exact mirrors_pure rfl
  · exact mirrors_pure rfl
  · exact mirrors_pure rfl
  · refine (h.types schema).bind ?_
    cases (inline schema).value <;> exact mirrors_pure rfl

theorem typing_mirrors (d : Descriptor) (context : Context) :
    MirrorsRun Generated.undocumented (typing inline d scope context)
      (typing inline' d.undocumented scope.undocumented context) := by
  refine (d.contextId_mirrors _ _ context).bind fun id => ?_
  refine (mirrorsRun_lift (members_mirrors h scope d)).bind fun members => ?_
  refine (mirrorsRun_lift (additionalType_mirrors h d)).bind fun additional => mirrorsRun_pure ?_
  cases id with
  | none => exact congrArg Generated.type (undocumented_objectType d members additional).symm
  | some name =>
    dsimp only [Generated.undocumented]
    rw [Descriptor.undocumented_declared, undocumented_namedBody]

end ObjectTyping

/-! ## Descriptors of every kind -/

/-- A value used as a type has no comment. -/
theorem Json.literal_of_literalType? {value : Json} {type : TypeExpr}
    (h : value.literalType? = some type) : ∃ l, type = .literal l := by
  unfold Json.literalType? at h
  split at h
  · cases h; exact ⟨_, rfl⟩
  · cases h; exact ⟨_, rfl⟩
  · split at h <;> cases h <;> exact ⟨_, rfl⟩
  · cases h; exact ⟨_, rfl⟩
  all_goals cases h

theorem Json.undocumented_literalType? (value : Json) :
    value.literalType?.map TypeExpr.undocumented = value.literalType? := by
  cases h : value.literalType? with
  | none => rfl
  | some type =>
    obtain ⟨l, rfl⟩ := Json.literal_of_literalType? h
    rfl

namespace EnumChoice

theorem type?_undocumented (choice : EnumChoice) :
    choice.undocumented.type? = choice.type?.map TypeExpr.undocumented := by
  rcases choice with value | ⟨name, _ | description⟩ | value
  · rfl
  · rfl
  · rfl
  · exact (Json.undocumented_literalType? value).symm

/-- Choices without documentation make the same union, without comments in front of its members. -/
theorem union_undocumented (choices : List EnumChoice) :
    union (choices.map undocumented) = (union choices).undocumented := by
  have htypes : (choices.map undocumented).filterMap type? =
      (choices.filterMap type?).map TypeExpr.undocumented := by
    rw [List.filterMap_map, List.map_filterMap]
    exact congrArg (choices.filterMap ·) (funext type?_undocumented)
  unfold union
  rw [htypes]
  cases choices.filterMap type? with
  | nil => rfl
  | cons first rest =>
    simp only [List.map_cons, TypeExpr.undocumented, TypeExpr.undocumentedAll,
      TypeExpr.undocumentedAll_eq_map]

end EnumChoice

namespace Descriptor

variable (scope : Scope) (d : Descriptor) (context : Context)

theorem referenceTyping_mirrors (target : String) :
    MirrorsRun Generated.undocumented (d.referenceTyping target scope context)
      (d.undocumented.referenceTyping target scope.undocumented context) := by
  refine (d.slot_mirrors _ context).bind fun slot => ?_
  refine (mirrorsRun_lift (scope.resolve_mirrors target)).bind fun name => ?_
  exact mirrorsRun_pure (d.undocumented_place (.reference name) slot).symm

theorem staticValueTyping_mirrors (value : Json) :
    MirrorsRun Generated.undocumented (d.staticValueTyping value context)
      (d.undocumented.staticValueTyping value context) := by
  unfold staticValueTyping
  cases h : value.literalType? with
  | none => exact mirrorsRun_throw _ _
  | some type =>
    obtain ⟨l, rfl⟩ := Json.literal_of_literalType? h
    refine (d.slot_mirrors _ context).bind fun slot => ?_
    exact mirrorsRun_pure (d.undocumented_place (.literal l) slot).symm

theorem nullTyping_mirrors :
    MirrorsRun Generated.undocumented (nullTyping context) (nullTyping context) := by
  cases context with
  | inline => exact mirrorsRun_pure rfl
  | «namespace» | interface => exact mirrorsRun_throw _ _

include h

theorem arrayTyping_mirrors (items : Descriptor) :
    MirrorsRun Generated.undocumented (d.arrayTyping inline items context)
      (d.undocumented.arrayTyping inline' items.undocumented context) := by
  refine (mirrorsRun_lift (h.types items)).bind fun item => ?_
  cases item with
  | none => exact d.typeOrAlias_mirrors _ _ _ context
  | some type => exact d.typeOrAlias_mirrors (.array type) _ _ context

theorem unionTyping_mirrors (choices : List Descriptor) :
    MirrorsRun Generated.undocumented (d.unionTyping inline choices context)
      (d.undocumented.unionTyping inline' (choices.map undocumented) context) := by
  refine (d.contextId_mirrors _ _ context).bind fun name => ?_
  refine (mirrorsRun_lift (mirrors_collect choices fun e _ => h.types e)).bind fun types => ?_
  have hunion : (TypeExpr.union types).undocumented = .union (types.map TypeExpr.undocumented) :=
    congrArg TypeExpr.union (TypeExpr.undocumentedAll_eq_map types)
  rw [List.isEmpty_map]
  cases name with
  | none =>
    refine (mirrorsRun_pure ?_).check _ _
    exact congrArg Generated.type hunion.symm
  | some name =>
    refine (mirrorsRun_pure ?_).check _ _
    simp only [Generated.undocumented, undocumented_declared, Declaration.undocumentedBody, hunion]

/-- Every kind of descriptor without documentation makes what it makes with documentation. -/
theorem kindTyping_mirrors (kind : Kind) :
    MirrorsRun Generated.undocumented (d.kindTyping inline scope kind context)
      (d.undocumented.kindTyping inline' scope.undocumented kind.undocumented context) := by
  cases kind with
  | null => exact nullTyping_mirrors context
  | any => exact d.typeOrAlias_mirrors .any _ _ context
  | boolean => exact d.typeOrAlias_mirrors (.keyword .boolean) _ _ context
  | integer => exact d.typeOrAlias_mirrors (.keyword .number) _ _ context
  | number => exact d.typeOrAlias_mirrors (.keyword .number) _ _ context
  | string => exact d.typeOrAlias_mirrors (.keyword .string) _ _ context
  | enumString choices =>
    simp only [kindTyping, Kind.undocumented, EnumChoice.union_undocumented]
    exact d.typeOrAlias_mirrors (EnumChoice.union choices) _ _ context
  | function =>
    have hsignature := Signature.typing_mirrors h d d.params d.callbackHandling context
    rw [← params_undocumented] at hsignature
    simp only [kindTyping, Kind.undocumented, callbackHandling, isCallback_undocumented]
    exact hsignature
  | array items => exact arrayTyping_mirrors h d context items
  | union choices => exact unionTyping_mirrors h d context choices
  | reference target => exact referenceTyping_mirrors scope d context target
  | object => exact ObjectTyping.typing_mirrors h scope d context
  | staticValue value => exact staticValueTyping_mirrors d context value

omit h

theorem isDocumented_additionalType {type : TypeExpr}
    (ht : (ObjectTyping.additionalType inline d).value = some type) : type.isDocumented = false := by
  unfold ObjectTyping.additionalType at ht
  split at ht
  · cases ht
  · cases ht
  · cases ht
    rfl
  next schema _ =>
    rw [Reporting.value_bind] at ht
    cases hs : (inline schema).value <;> rw [hs] at ht <;> cases ht <;> rfl

theorem isDocumented_objectType (members : List (Member TypeExpr)) {additional : Option TypeExpr}
    (ha : ∀ t, additional = some t → t.isDocumented = false) :
    (ObjectTyping.objectType d members additional).isDocumented = false := by
  have hcombine : ∀ parts : List TypeExpr, (∀ t ∈ parts, t.isDocumented = false) →
      (ObjectTyping.combine parts).isDocumented = false := by
    rintro (_ | ⟨part, _ | ⟨second, rest⟩⟩) hparts
    · rfl
    · exact hparts part List.mem_cons_self
    · rfl
  refine hcombine _ fun t ht => ?_
  rw [List.mem_append, List.mem_append, Option.mem_toList, Option.mem_toList] at ht
  rcases ht with (hhost | hown) | hadditional
  · obtain ⟨host, -, rfl⟩ := Option.map_eq_some_iff.mp hhost
    rfl
  · split at hown
    · exact absurd hown List.not_mem_nil
    · rw [List.mem_singleton.mp hown]
      rfl
  · exact ha t hadditional

/-- A type made of a descriptor has no comment of its own. -/
theorem isDocumented_of_kindTyping {kind : Kind} {type : TypeExpr}
    (hv : (d.kindTyping inline scope kind .inline).run.value = .ok (.type type)) :
    type.isDocumented = false := by
  cases kind with
  | null | any | boolean | integer | number | string => cases hv; rfl
  | enumString choices =>
    cases hv
    unfold EnumChoice.union
    split <;> rfl
  | function => cases hv; rfl
  | array items => cases hv; rfl
  | union choices =>
    obtain ⟨name, hname, hv⟩ := Reporting.run_bind_eq_ok.mp hv
    cases hname
    obtain ⟨types, -, hv⟩ := Reporting.run_bind_eq_ok.mp hv
    by_cases hempty : types.isEmpty = true
    · rw [if_pos hempty] at hv
      cases hv
    · rw [if_neg hempty] at hv
      cases hv
      rfl
  | reference target => cases hv; rfl
  | object =>
    cases hv
    exact isDocumented_objectType d _ fun t ht => isDocumented_additionalType d ht
  | staticValue value =>
    simp only [kindTyping, staticValueTyping] at hv
    cases hl : value.literalType? with
    | none => rw [hl] at hv; cases hv
    | some made =>
      obtain ⟨l, rfl⟩ := Json.literal_of_literalType? hl
      rw [hl] at hv
      cases hv
      rfl

end Descriptor

/-! ## Every depth -/

namespace Scope

theorem typing_mirrors (h : inline.Mirrors inline') (scope : Scope) (d : Descriptor) (context : Context) :
    MirrorsRun (Option.map Generated.undocumented) (scope.typing inline d context)
      (scope.undocumented.typing inline' d.undocumented context) := by
  unfold typing
  rw [Descriptor.overridden?_undocumented]
  cases d.overridden? with
  | none =>
    exact (mirrorsRun_lift (mirrors_note _ _)).bind fun _ => mirrorsRun_pure rfl
  | some d =>
    dsimp only [Option.map_some]
    rw [Descriptor.kind?_undocumented]
    cases d.kind? with
    | none => exact mirrorsRun_throw _ _
    | some kind => exact (Descriptor.kindTyping_mirrors h scope d context kind).map fun _ => rfl

theorem contain_mirrors (scope : Scope) (d : Descriptor) (context : Context) {x y : Generating (Option Generated)}
    (h : MirrorsRun (Option.map Generated.undocumented) x y) :
    Mirrors (Option.map Generated.undocumented) (scope.contain d context x)
      (scope.undocumented.contain d.undocumented context y) :=
  h.handle (fun _ => mirrors_pure rfl) fun _ _ => (mirrors_error rfl _ _).bind (mirrors_pure rfl)

theorem type?_undocumented (made : Option Generated) :
    (made.map Generated.undocumented).bind Generated.type? =
      (made.bind Generated.type?).map TypeExpr.undocumented := by
  rcases made with _ | (_ | _ | _) <;> rfl

theorem declaration?_undocumented (made : Option Generated) :
    (made.map Generated.undocumented).bind Generated.declaration? =
      (made.bind Generated.declaration?).map Declaration.undocumented := by
  rcases made with _ | (_ | _ | _) <;> rfl

/-- No type made of a descriptor has a comment of its own. -/
theorem isDocumented_of_contain (scope : Scope) (d : Descriptor) {type : TypeExpr}
    (ht : (scope.contain d .inline (scope.typing inline d .inline)).value.bind Generated.type? =
      some type) : type.isDocumented = false := by
  obtain ⟨made, hmade, ht⟩ := Option.bind_eq_some_iff.mp ht
  obtain ⟨d', kind, -, -, hv⟩ := typing_eq_some (contain_eq_some hmade)
  cases made with
  | type t =>
    cases ht
    exact d'.isDocumented_of_kindTyping scope hv
  | declaration => cases ht
  | member => cases ht

/-- Nested types are mirrored, however deep they go. -/
theorem inlineWithin_mirrors (scope : Scope) (levels : Nat) :
    (scope.inlineWithin levels).Mirrors (scope.undocumented.inlineWithin levels) := by
  induction levels with
  | zero => exact ⟨fun _ => mirrors_pure rfl, fun _ _ ht => nomatch ht⟩
  | succ levels ih =>
    refine ⟨fun d => ?_, fun d _ ht => scope.isDocumented_of_contain d ht⟩
    exact (scope.contain_mirrors d .inline (typing_mirrors ih scope d .inline)).bind
      (mirrors_pure (type?_undocumented _))

theorem generate_mirrors (scope : Scope) (d : Descriptor) (context : Context) :
    Mirrors (Option.map Generated.undocumented) (scope.generate d context)
      (scope.undocumented.generate d.undocumented context) := by
  unfold generate attempt
  rw [Descriptor.depth_undocumented]
  exact scope.contain_mirrors d context
    (typing_mirrors (scope.inlineWithin_mirrors d.depth) scope d context)

/-- Types are mirrored. -/
theorem inlineType_mirrors (scope : Scope) :
    scope.inlineType.Mirrors scope.undocumented.inlineType :=
  ⟨fun d => (scope.generate_mirrors d .inline).bind (mirrors_pure (type?_undocumented _)),
    fun d _ ht => scope.isDocumented_of_contain d ht⟩

theorem declaration_mirrors (scope : Scope) (d : Descriptor) (context : Context) :
    Mirrors (Option.map Declaration.undocumented) (scope.declaration d context)
      (scope.undocumented.declaration d.undocumented context) :=
  (scope.generate_mirrors d context).bind (mirrors_pure (declaration?_undocumented _))

end Scope

end SchemaTypings
