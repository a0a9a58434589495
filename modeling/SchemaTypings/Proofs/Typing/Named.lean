import SchemaTypings.Proofs.Declaration.Forms
import SchemaTypings.Proofs.Descriptor.Override
import SchemaTypings.Proofs.Report.Outcomes
import SchemaTypings.Typing.Generate

/-!
# What a kind makes under a name

Kinds fall into two groups. References, functions and constant values take the place that the context
has for their identifier: a value of the namespace or a member of an interface. All others become a
type named by their id, whichever of the two it is.

* `isTypeNamed_of_kindTyping`: a kind of the second group makes a type.
* `isValueNamed_of_kindTyping`: in a namespace a reference or a constant value makes a constant.
-/

namespace SchemaTypings

/-- Whether a kind takes the place of its identifier. -/
def Kind.isPlaced : Kind → Bool
  | function | reference _ | staticValue _ => true
  | _ => false

/-- A type that goes by an id. -/
def Generated.IsTypeNamed (id : Option String) (g : Generated) : Prop :=
  ∃ decl, g = .declaration decl ∧ id = some decl.name ∧ decl.inTypeSpace = true

/-- A constant that goes by an identifier. -/
def Generated.IsValueNamed (identifier : Option String) (g : Generated) : Prop :=
  ∃ decl, g = .declaration decl ∧ identifier = some decl.name ∧ decl.form = .const

namespace Descriptor

variable {inline : InlineTyping} {scope : Scope} {d : Descriptor} {kind : Kind} {context : Context}
  {g : Generated}

/-! ## Places -/

theorem contextId_eq_ok {fault : GenerateFault} {id : Option String}
    (h : (d.contextId fault context).run.value = .ok id) (hc : context ≠ .inline) :
    id.isSome = true ∧ d.id = id := by
  unfold contextId at h
  cases context with
  | inline => exact absurd rfl hc
  | «namespace» =>
    cases hid : d.id <;> rw [hid] at h
    · cases h
    · cases h
      exact ⟨rfl, rfl⟩
  | interface =>
    cases hid : d.id <;> rw [hid] at h
    · cases h
    · cases h
      exact ⟨rfl, rfl⟩

theorem slot_namespace_eq_ok {kind : String} {place : Slot}
    (h : (d.slot kind .namespace).run.value = .ok place) :
    ∃ name, d.identifier? = some name ∧ place = .declared name := by
  unfold slot at h
  cases hid : d.identifier? with
  | none =>
    rw [hid] at h
    cases h
  | some name =>
    rw [hid] at h
    cases h
    exact ⟨name, rfl, rfl⟩

theorem isTypeNamed_of_typeOrAlias {type : TypeExpr} {kind : String}
    (h : (d.typeOrAlias type kind context).run.value = .ok g) (hc : context ≠ .inline) :
    g.IsTypeNamed d.id := by
  obtain ⟨id, hid, h⟩ := Reporting.run_bind_eq_ok.mp h
  obtain ⟨hsome, hd⟩ := contextId_eq_ok hid hc
  cases id with
  | none => cases hsome
  | some name =>
    cases h
    exact ⟨_, rfl, hd, rfl⟩

theorem inTypeSpace_declared_namedBody (d e : Descriptor) (name : String)
    (members : List (Member TypeExpr)) (additional : Option TypeExpr) :
    (d.declared name (ObjectTyping.namedBody e members additional)).inTypeSpace = true := by
  unfold Declaration.inTypeSpace declared ObjectTyping.namedBody
  by_cases h : (e.isInstanceOf.isNone && additional.isNone) = true
  · simp only [if_pos h]
  · simp only [if_neg h]

/-! ## Kinds -/

theorem isTypeNamed_of_kindTyping (hp : kind.isPlaced = false) (hc : context ≠ .inline)
    (h : (d.kindTyping inline scope kind context).run.value = .ok g) : g.IsTypeNamed d.id := by
  cases kind with
  | function => cases hp
  | reference => cases hp
  | staticValue => cases hp
  | null =>
    cases context with
    | inline => exact absurd rfl hc
    | «namespace» => cases h
    | interface => cases h
  | any => exact isTypeNamed_of_typeOrAlias h hc
  | boolean => exact isTypeNamed_of_typeOrAlias h hc
  | integer => exact isTypeNamed_of_typeOrAlias h hc
  | number => exact isTypeNamed_of_typeOrAlias h hc
  | string => exact isTypeNamed_of_typeOrAlias h hc
  | enumString choices => exact isTypeNamed_of_typeOrAlias h hc
  | array items =>
    obtain ⟨item, -, h⟩ := Reporting.run_bind_eq_ok.mp h
    exact isTypeNamed_of_typeOrAlias h hc
  | union choices =>
    obtain ⟨id, hid, h⟩ := Reporting.run_bind_eq_ok.mp h
    obtain ⟨hsome, hd⟩ := contextId_eq_ok hid hc
    obtain ⟨types, -, h⟩ := Reporting.run_bind_eq_ok.mp h
    cases id with
    | none => cases hsome
    | some name =>
      dsimp only at h
      split at h
      · cases h
      · cases h
        exact ⟨_, rfl, hd, rfl⟩
  | object =>
    obtain ⟨id, hid, h⟩ := Reporting.run_bind_eq_ok.mp h
    obtain ⟨hsome, hd⟩ := contextId_eq_ok hid hc
    obtain ⟨members, -, h⟩ := Reporting.run_bind_eq_ok.mp h
    obtain ⟨additional, -, h⟩ := Reporting.run_bind_eq_ok.mp h
    cases id with
    | none => cases hsome
    | some name =>
      cases h
      exact ⟨_, rfl, hd, inTypeSpace_declared_namedBody d d name members additional⟩

theorem isValueNamed_of_place {type : TypeExpr} {kind : String} {slot : Slot}
    (hs : (d.slot kind .namespace).run.value = .ok slot) :
    (d.place type slot).IsValueNamed d.identifier? := by
  obtain ⟨name, hn, rfl⟩ := slot_namespace_eq_ok hs
  exact ⟨_, rfl, hn, rfl⟩

theorem isValueNamed_of_kindTyping (hp : kind.isPlaced = true) (hf : kind ≠ .function)
    (h : (d.kindTyping inline scope kind .namespace).run.value = .ok g) :
    g.IsValueNamed d.identifier? := by
  cases kind with
  | function => exact absurd rfl hf
  | reference target =>
    obtain ⟨slot, hs, h⟩ := Reporting.run_bind_eq_ok.mp h
    obtain ⟨target', -, h⟩ := Reporting.run_bind_eq_ok.mp h
    cases h
    exact isValueNamed_of_place hs
  | staticValue value =>
    change (d.staticValueTyping value .namespace).run.value = .ok g at h
    unfold staticValueTyping at h
    split at h
    · cases h
    · obtain ⟨slot, hs, h⟩ := Reporting.run_bind_eq_ok.mp h
      cases h
      exact isValueNamed_of_place hs
  | _ => cases hp

end Descriptor

/-! ## Declarations -/

namespace Scope

variable {scope : Scope} {d : Descriptor} {context : Context} {decl : Declaration}

/-- A declaration comes from the kind of what the overrides leave. -/
theorem declaration_eq_some (h : (scope.declaration d context).value = some decl) :
    ∃ d' kind, d.overridden? = some d' ∧ d.kind? = some kind ∧
      (d'.kindTyping (scope.inlineWithin d.depth) scope kind context).run.value =
        .ok (.declaration decl) := by
  rw [value_declaration, Option.bind_eq_some_iff] at h
  obtain ⟨g, hg, hdecl⟩ := h
  cases ho : d.overridden? with
  | none =>
    rw [attempt, value_typing_skipped ho] at hg
    cases hg
  | some d' =>
    cases hk : d.kind? with
    | none =>
      rw [attempt, typing, ho] at hg
      dsimp only at hg
      rw [Descriptor.kind?_of_overridden ho, hk] at hg
      cases hg
    | some kind =>
      rw [attempt, value_typing ho ((Descriptor.kind?_of_overridden ho).trans hk)] at hg
      refine ⟨d', kind, rfl, rfl, ?_⟩
      cases hv : (d'.kindTyping (scope.inlineWithin d.depth) scope kind context).run.value with
      | error fault =>
        rw [hv] at hg
        cases hg
      | ok g' =>
        rw [hv] at hg
        cases hg
        cases g with
        | declaration d'' =>
          cases hdecl
          rfl
        | type => cases hdecl
        | member => cases hdecl

/-- The declaration of a descriptor that is no reference, function or constant value is a type. -/
theorem inTypeSpace_of_declaration (h : (scope.declaration d context).value = some decl)
    (hc : context ≠ .inline) (hk : ∀ kind, d.kind? = some kind → kind.isPlaced = false) :
    d.id = some decl.name ∧ decl.inTypeSpace = true := by
  obtain ⟨d', kind, ho, hkind, h⟩ := declaration_eq_some h
  obtain ⟨decl', he, hid, ht⟩ := Descriptor.isTypeNamed_of_kindTyping (hk kind hkind) hc h
  cases he
  exact ⟨(Descriptor.id_of_overridden ho).symm.trans hid, ht⟩

/-- The declaration of a reference or a constant value in a namespace is a constant. -/
theorem const_of_declaration {kind : Kind}
    (h : (scope.declaration d .namespace).value = some decl) (hk : d.kind? = some kind)
    (hp : kind.isPlaced = true) (hf : kind ≠ .function) :
    d.identifier? = some decl.name ∧ decl.form = .const := by
  obtain ⟨d', kind', ho, hkind, h⟩ := declaration_eq_some h
  cases hk.symm.trans hkind
  obtain ⟨decl', he, hid, ht⟩ := Descriptor.isValueNamed_of_kindTyping hp hf h
  cases he
  exact ⟨(Descriptor.identifier?_of_overridden ho).symm.trans hid, ht⟩

end Scope

end SchemaTypings
