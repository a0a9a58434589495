import SchemaTypings.Proofs.Typing.Named
import SchemaTypings.Proofs.Typing.Object

/-!
# What a context changes

A context decides which shape is made of a descriptor, and nothing else.

* `Context.shape`: the shape that a context asks for.
* `Generated.Carries`: what was made stands for a type.
* `Scope.shape_of_typing`: everything has the shape that its context asks for.
* `Scope.attempt_carries`: what is made in a context carries the type that is made inline, and reports
  the same. An object without any part is the one exception.
-/

namespace SchemaTypings

/-! ## Shapes and contents -/

/-- The shapes of what generators make. -/
inductive Generated.Shape where
  | type
  | declaration
  | member
deriving DecidableEq

/-- The shape of what was made. -/
def Generated.shape : Generated → Generated.Shape
  | type _ => .type
  | declaration _ => .declaration
  | member _ => .member

/-- The shape of a place. -/
def Slot.shape : Slot → Generated.Shape
  | inline => .type
  | declared _ => .declaration
  | member _ => .member

/-- The shape that a context asks for. An interface takes up a kind that goes to the place of its
identifier as a member, and declares any other beside itself. -/
def Context.shape (context : Context) (isPlaced : Bool) : Generated.Shape :=
  match context with
  | .inline => .type
  | .namespace => .declaration
  | .interface => if isPlaced then .member else .declaration

/-- What was made stands for a type. -/
inductive Generated.Carries : Generated → TypeExpr → Prop
  | type {type : TypeExpr} : Carries (.type type) type
  | alias {d : Declaration} {type : TypeExpr} (h : d.body = .alias type) :
      Carries (.declaration d) type
  | const {d : Declaration} {type : TypeExpr} (h : d.body = .const type) :
      Carries (.declaration d) type
  | interface {d : Declaration} {members : List (Member TypeExpr)}
      (h : d.body = .interface [] members) : Carries (.declaration d) (.object members)
  | function {d : Declaration} {params : List (Param TypeExpr)} {returns : TypeExpr}
      (h : d.body = .function params returns) :
      Carries (.declaration d) (.function params returns)
  | method {name : String} {params : List (Param TypeExpr)} {returns : TypeExpr}
      {doc : DocComment} : Carries (.member (.method name params returns doc))
        (.function params returns)
  | property {name : String} {type : TypeExpr} {optional : Bool} {doc : DocComment} :
      Carries (.member (.property name type optional doc)) type

/-- Whenever something is made in a place, a type that it fits is made inline, with the same
diagnostics. -/
def Agrees (R : Generated → TypeExpr → Prop) (inline placed : Generating Generated) : Prop :=
  ∀ g, placed.run.value = .ok g → ∃ type, inline.run.value = .ok (.type type) ∧ R g type ∧
    placed.run.diagnostics = inline.run.diagnostics

variable {R : Generated → TypeExpr → Prop} {context : Context}

theorem agrees_pure {g : Generated} {type : TypeExpr} (h : R g type) :
    Agrees R (pure (.type type)) (pure g) := by
  intro g' hg'
  cases hg'
  exact ⟨type, rfl, h, rfl⟩

theorem agrees_throw (inline : Generating Generated) (fault : GenerateFault) :
    Agrees R inline (throw fault) := by
  intro g hg
  cases hg

theorem agrees_bind {α : Type} {x : Reporting α} {f g : α → Generating Generated}
    (h : Agrees R (f x.value) (g x.value)) :
    Agrees R (liftM x >>= f) (liftM x >>= g) := by
  intro made hmade
  have hrun : ∀ k : α → Generating Generated, (liftM x >>= k).run = x >>= fun a => (k a).run := by
    intro k
    rw [ExceptT.run_bind, ExceptT.run_liftM]
    exact Reporting.ext rfl (by simp)
  rw [hrun, Reporting.value_bind] at hmade
  obtain ⟨type, htype, hfits, hdiagnostics⟩ := h made hmade
  refine ⟨type, ?_, hfits, ?_⟩
  · rw [hrun, Reporting.value_bind]
    exact htype
  · rw [hrun, hrun, Reporting.diagnostics_bind, Reporting.diagnostics_bind, hdiagnostics]

namespace Descriptor

variable {d : Descriptor}

/-- A place is found without a report, or not at all. -/
theorem slot_eq_ok {kind : String} {slot : Slot}
    (h : (d.slot kind context).run.value = .ok slot) :
    (d.slot kind context).run = pure (.ok slot) ∧ slot.shape = context.shape true := by
  unfold Descriptor.slot at h ⊢
  cases context <;> cases hid : d.identifier? <;> rw [hid] at h <;> cases h <;> exact ⟨rfl, rfl⟩

theorem agrees_slot {kind : String} {f : Slot → Generating Generated}
    (h : ∀ slot : Slot, slot.shape = context.shape true → Agrees R (f .inline) (f slot)) :
    Agrees R (d.slot kind .inline >>= f) (d.slot kind context >>= f) := by
  intro g hg
  obtain ⟨slot, hslot, -⟩ := Reporting.run_bind_eq_ok.mp hg
  obtain ⟨hrun, hshape⟩ := slot_eq_ok hslot
  have hplaced : (d.slot kind context >>= f).run = (f slot).run := by
    rw [ExceptT.run_bind, hrun]
    rfl
  rw [hplaced] at hg ⊢
  exact h slot hshape g hg

/-- The shape of what goes by an id, or by none. -/
def idShape (id : Option String) : Generated.Shape := if id.isSome then .declaration else .type

theorem contextId_run {fault : GenerateFault} {id : Option String}
    (h : (d.contextId fault context).run.value = .ok id) :
    (d.contextId fault context).run = pure (.ok id) ∧ idShape id = context.shape false := by
  unfold contextId at h ⊢
  cases context <;> cases hid : d.id <;> rw [hid] at h <;> cases h <;> exact ⟨rfl, rfl⟩

theorem agrees_contextId {fault fault' : GenerateFault} {f : Option String → Generating Generated}
    (h : ∀ id, idShape id = context.shape false → Agrees R (f none) (f id)) :
    Agrees R (d.contextId fault .inline >>= f) (d.contextId fault' context >>= f) := by
  intro g hg
  obtain ⟨id, hid, -⟩ := Reporting.run_bind_eq_ok.mp hg
  obtain ⟨hrun, hshape⟩ := contextId_run hid
  have hplaced : (d.contextId fault' context >>= f).run = (f id).run := by
    rw [ExceptT.run_bind, hrun]
    rfl
  rw [hplaced] at hg ⊢
  exact h id hshape g hg

/-! ## Kinds -/

/-- What a context makes of a type: the shape it asks for, with the type in it. -/
structure Fits (context : Context) (isPlaced : Bool) (g : Generated) (type : TypeExpr) : Prop where
  shape : g.shape = context.shape isPlaced
  carried : g.Carries type

variable {inline : InlineTyping} {scope : Scope}

theorem fits_place {slot : Slot} (h : slot.shape = context.shape true) (type : TypeExpr) :
    Fits context true (d.place type slot) type := by
  cases slot with
  | inline => exact ⟨h, .type⟩
  | declared name => exact ⟨h, .const rfl⟩
  | member name => exact ⟨h, .property⟩

theorem fits_signature {slot : Slot} (h : slot.shape = context.shape true)
    (shown : List Descriptor) (params : List (Param TypeExpr)) (returns : TypeExpr) :
    Fits context true (Signature.place d shown params returns slot) (.function params returns) := by
  cases slot with
  | inline => exact ⟨h, .type⟩
  | declared name => exact ⟨h, .function rfl⟩
  | member name => exact ⟨h, .method⟩

theorem agrees_typeOrAlias (type : TypeExpr) (kind : String) :
    Agrees (Fits context false) (d.typeOrAlias type kind .inline)
      (d.typeOrAlias type kind context) := by
  refine agrees_contextId fun id hshape => ?_
  cases id with
  | none => exact agrees_pure ⟨hshape, .type⟩
  | some name => exact agrees_pure ⟨hshape, .alias rfl⟩

theorem agrees_signature (ps : List Descriptor) (handling : CallbackHandling) :
    Agrees (Fits context true) (Signature.typing inline d ps handling .inline)
      (Signature.typing inline d ps handling context) := by
  refine agrees_slot fun slot hshape => ?_
  refine agrees_bind ?_
  refine agrees_bind ?_
  exact agrees_pure (fits_signature hshape _ _ _)

theorem agrees_unionTyping (choices : List Descriptor) :
    Agrees (Fits context false) (d.unionTyping inline choices .inline)
      (d.unionTyping inline choices context) := by
  refine agrees_contextId fun id hshape => ?_
  refine agrees_bind ?_
  dsimp only
  split
  · intro g hg
    cases hg
  · cases id with
    | none => exact agrees_pure ⟨hshape, .type⟩
    | some name => exact agrees_pure ⟨hshape, .alias rfl⟩

theorem agrees_staticValueTyping (value : Json) :
    Agrees (Fits context true) (d.staticValueTyping value .inline)
      (d.staticValueTyping value context) := by
  unfold staticValueTyping
  split
  · exact agrees_throw _ _
  · exact agrees_slot fun slot hshape => agrees_pure (fits_place hshape _)

/-- What a context makes of the parts of an object. -/
structure FitsObject (d : Descriptor) (members : List (Member TypeExpr))
    (additional : Option TypeExpr) (context : Context) (g : Generated) (type : TypeExpr) : Prop where
  shape : g.shape = context.shape false
  eq_objectType : type = ObjectTyping.objectType d members additional
  made : g = .type type ∨
    ∃ name, g = .declaration (d.declared name (ObjectTyping.namedBody d members additional))

theorem agrees_object :
    Agrees (FitsObject d (ObjectTyping.members inline scope d).value
        (ObjectTyping.additionalType inline d).value context)
      (ObjectTyping.typing inline d scope .inline) (ObjectTyping.typing inline d scope context) := by
  refine agrees_contextId fun id hshape => ?_
  refine agrees_bind ?_
  refine agrees_bind ?_
  cases id with
  | none => exact agrees_pure ⟨hshape, rfl, .inl rfl⟩
  | some name => exact agrees_pure ⟨hshape, rfl, .inr ⟨name, rfl⟩⟩

/-- One case for each kind but objects: the context decides the shape and keeps the type. -/
theorem agrees_kindTyping {kind : Kind} (hk : kind ≠ .object) :
    Agrees (Fits context kind.isPlaced) (d.kindTyping inline scope kind .inline)
      (d.kindTyping inline scope kind context) := by
  cases kind with
  | null =>
    cases context with
    | inline => exact agrees_pure ⟨rfl, .type⟩
    | «namespace» => exact agrees_throw _ _
    | interface => exact agrees_throw _ _
  | any => exact agrees_typeOrAlias _ _
  | boolean => exact agrees_typeOrAlias _ _
  | integer => exact agrees_typeOrAlias _ _
  | number => exact agrees_typeOrAlias _ _
  | string => exact agrees_typeOrAlias _ _
  | enumString choices => exact agrees_typeOrAlias _ _
  | function => exact agrees_signature _ _
  | array items => exact agrees_bind (agrees_typeOrAlias _ _)
  | union choices => exact agrees_unionTyping choices
  | reference target =>
    refine agrees_slot fun slot hshape => ?_
    exact agrees_bind (agrees_pure (fits_place hshape _))
  | object => exact absurd rfl hk
  | staticValue value => exact agrees_staticValueTyping value

/-- Everything that is made of a kind has the shape that the context asks for. -/
theorem shape_of_kindTyping {kind : Kind} {g : Generated}
    (h : (d.kindTyping inline scope kind context).run.value = .ok g) :
    g.shape = context.shape kind.isPlaced := by
  by_cases hk : kind = .object
  · subst hk
    obtain ⟨type, -, hfits, -⟩ := agrees_object g h
    exact hfits.shape
  · obtain ⟨type, -, hfits, -⟩ := agrees_kindTyping hk g h
    exact hfits.shape

/-- An object that nothing is known about: no member, no additional properties, no class of the
host. -/
def IsBare (scope : Scope) (d : Descriptor) : Prop :=
  d.kind? = some .object ∧ d.isInstanceOf = none ∧ ObjectTyping.objectParts scope d = ([], none)

/-! ## Objects -/

/-- Under a name an object is an empty interface, or carries the type that it has inline. -/
theorem carries_or_empty (name : String) (members : List (Member TypeExpr))
    (additional : Option TypeExpr) :
    let decl := d.declared name (ObjectTyping.namedBody d members additional)
    (Generated.declaration decl).Carries (ObjectTyping.objectType d members additional) ∨
      decl.body = .interface [] [] := by
  intro decl
  have hcarries := ObjectTyping.carries_namedBody d d name members additional
  generalize ObjectTyping.objectType d members additional = type at hcarries ⊢
  cases hcarries with
  | «alias» h => exact .inl (.alias h)
  | interface h => exact .inl (.interface h)
  | empty h => exact .inr h

/-- It is an empty interface only if it has no part at all. -/
theorem parts_of_empty {members : List (Member TypeExpr)} {additional : Option TypeExpr}
    (h : ObjectTyping.namedBody d members additional = .interface [] []) :
    d.isInstanceOf = none ∧ members = [] ∧ additional = none := by
  unfold ObjectTyping.namedBody at h
  split at h
  next hnone =>
    rw [Bool.and_eq_true, Option.isNone_iff_eq_none, Option.isNone_iff_eq_none] at hnone
    cases h
    exact ⟨hnone.1, rfl, hnone.2⟩
  next => cases h

/-- What is made of an object that is bare, or is not. -/
theorem FitsObject.cases {members : List (Member TypeExpr)} {additional : Option TypeExpr}
    {g : Generated} {type : TypeExpr} (h : FitsObject d members additional context g type)
    (hc : context ≠ .inline) :
    (¬(d.isInstanceOf = none ∧ members = [] ∧ additional = none) → g.Carries type) ∧
      (d.isInstanceOf = none ∧ members = [] ∧ additional = none →
        type = .stringIndex .any ∧ ∃ decl, g = .declaration decl ∧ decl.body = .interface [] []) := by
  obtain ⟨hshape, rfl, rfl | ⟨name, rfl⟩⟩ := h
  · cases context with
    | inline => exact absurd rfl hc
    | «namespace» => cases hshape
    | interface => cases hshape
  · refine ⟨fun hparts => ?_, fun ⟨hbase, hmembers, hadditional⟩ => ?_⟩
    · rcases carries_or_empty name members additional with hcarries | hempty
      · exact hcarries
      · exact absurd (parts_of_empty hempty) hparts
    · unfold ObjectTyping.objectType ObjectTyping.namedBody
      rw [hbase, hmembers, hadditional]
      exact ⟨rfl, _, rfl, rfl⟩

end Descriptor

namespace Scope

variable {scope : Scope} {inline : InlineTyping} {d d' : Descriptor} {g : Generated}

theorem run_typing {kind : Kind} (ho : d.overridden? = some d') (hk : d'.kind? = some kind) :
    (scope.typing inline d context).run =
      Except.map some <$> (d'.kindTyping inline scope kind context).run := by
  unfold typing
  rw [ho]
  dsimp only
  rw [hk]
  exact ExceptT.run_map _ _

/-- What is made of a descriptor is made of its kind, behind the overrides. -/
theorem typing_eq_some (h : (scope.typing inline d context).run.value = .ok (some g)) :
    ∃ d' kind, d.overridden? = some d' ∧ d'.kind? = some kind ∧
      (d'.kindTyping inline scope kind context).run.value = .ok g := by
  cases ho : d.overridden? with
  | none =>
    rw [value_typing_skipped ho] at h
    cases h
  | some d' =>
    cases hk : d'.kind? with
    | none =>
      unfold typing at h
      rw [ho] at h
      dsimp only at h
      rw [hk] at h
      cases h
    | some kind =>
      refine ⟨d', kind, rfl, hk, ?_⟩
      rw [run_typing ho hk, Reporting.value_map] at h
      cases hv : (d'.kindTyping inline scope kind context).run.value with
      | error fault =>
        rw [hv] at h
        cases h
      | ok made =>
        rw [hv] at h
        cases h
        rfl

theorem contain_eq_some {generating : Generating (Option Generated)} {g : Generated}
    (h : (scope.contain d context generating).value = some g) :
    generating.run.value = .ok (some g) := by
  rw [value_contain] at h
  cases hv : generating.run.value with
  | error fault =>
    rw [hv] at h
    cases h
  | ok made =>
    rw [hv] at h
    exact congrArg Except.ok h

/-- **Everything has the shape that its context asks for.** -/
theorem shape_of_typing (h : (scope.typing inline d context).run.value = .ok (some g)) :
    ∃ kind, d.kind? = some kind ∧ g.shape = context.shape kind.isPlaced := by
  obtain ⟨d', kind, ho, hk, hmade⟩ := typing_eq_some h
  rw [Descriptor.kind?_of_overridden ho] at hk
  exact ⟨kind, hk, Descriptor.shape_of_kindTyping hmade⟩

/-- **The context decides the shape and nothing else.** Whatever is made of a descriptor under a name
has the shape that the context asks for, what is made inline is the type that it carries, and both
report the same; only an object without any part is an empty interface under a name, and has values of
any type under every key inline. -/
theorem attempt_carries (scope : Scope) (d : Descriptor) {context : Context}
    (hc : context ≠ .inline) {g : Generated}
    (h : (scope.attempt d context).run.value = .ok (some g)) :
    ∃ kind type, d.kind? = some kind ∧ g.shape = context.shape kind.isPlaced ∧
      (scope.attempt d .inline).run.value = .ok (some (.type type)) ∧
      (scope.attempt d context).run.diagnostics = (scope.attempt d .inline).run.diagnostics ∧
      (¬d.IsBare scope → g.Carries type) ∧
      (d.IsBare scope → type = .stringIndex .any ∧
        ∃ decl, g = .declaration decl ∧ decl.body = .interface [] []) := by
  obtain ⟨d', kind, ho, hk, hmade⟩ := typing_eq_some h
  have hkind : d.kind? = some kind := (Descriptor.kind?_of_overridden ho).symm.trans hk
  have hshape := Descriptor.shape_of_kindTyping hmade
  -- the run of a kind gives that of the attempt, in either context
  have hinline : ∀ {type : TypeExpr}, (d'.kindTyping (scope.inlineWithin d.depth) scope kind
      .inline).run.value = .ok (.type type) →
        (scope.attempt d .inline).run.value = .ok (some (.type type)) := by
    intro type htype
    rw [attempt, run_typing ho hk, Reporting.value_map, htype]
    rfl
  have hreports : ∀ c, (scope.attempt d c).run.diagnostics =
      (d'.kindTyping (scope.inlineWithin d.depth) scope kind c).run.diagnostics := by
    intro c
    rw [attempt, run_typing ho hk, Reporting.diagnostics_map]
  by_cases hobject : kind = .object
  · subst hobject
    cases Descriptor.overridden_of_object hkind ho
    obtain ⟨type, htype, hfits, hsame⟩ := Descriptor.agrees_object g hmade
    obtain ⟨hcarries, hempty⟩ := hfits.cases hc
    refine ⟨.object, type, hkind, hshape, hinline htype, ?_, fun hbare => ?_, fun hbare => ?_⟩
    · rw [hreports, hreports]
      exact hsame
    · apply hcarries
      rintro ⟨hbase, hmembers, hadditional⟩
      exact hbare ⟨hkind, hbase, Prod.ext hmembers hadditional⟩
    · obtain ⟨-, hbase, hparts⟩ := hbare
      exact hempty ⟨hbase, congrArg Prod.fst hparts, congrArg Prod.snd hparts⟩
  · obtain ⟨type, htype, hfits, hsame⟩ := Descriptor.agrees_kindTyping hobject g hmade
    refine ⟨kind, type, hkind, hshape, hinline htype, ?_, fun _ => hfits.carried, fun hbare => ?_⟩
    · rw [hreports, hreports]
      exact hsame
    · cases hkind.symm.trans hbare.1
      exact absurd rfl hobject

/-- An object with a reference to a type that nobody declares. -/
def rangeType : Descriptor :=
  { id := some "Range", typeName := some "object",
    properties := some [("unit", { reference := some "Unit" })] }

/-- A scope in which it is the only type. -/
def zoom : Scope := { space := "zoom", knownTypes := [rangeType], catalog := .empty, defined := [] }

theorem attempt_carries_range :
    ∃ g type, (zoom.attempt rangeType .interface).run.value = .ok (some g) ∧
      (zoom.attempt rangeType .inline).run.value = .ok (some (.type type)) ∧ g.Carries type ∧
      (zoom.attempt rangeType .interface).run.diagnostics =
        (zoom.attempt rangeType .inline).run.diagnostics := by
  have hmade : (zoom.attempt rangeType .interface).run.value = .ok (some (.declaration
      (rangeType.declared "Range"
        (.interface [] [.property "unit" (.reference "Unit") false .none])))) := by
    with_unfolding_all rfl
  have hbare : ¬rangeType.IsBare zoom := by
    rintro ⟨-, -, hparts⟩
    have hmembers : (ObjectTyping.objectParts zoom rangeType).1 =
        [.property "unit" (.reference "Unit") false .none] := by with_unfolding_all rfl
    rw [hparts] at hmembers
    cases hmembers
  have hcontext : Context.interface ≠ .inline := nofun
  obtain ⟨kind, type, -, -, hinline, hsame, hcarries, -⟩ :=
    attempt_carries zoom rangeType hcontext hmade
  exact ⟨_, type, hmade, hinline, hcarries hbare, hsame⟩

end Scope

end SchemaTypings
