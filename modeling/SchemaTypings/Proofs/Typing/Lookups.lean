import SchemaTypings.Typing.Event
import SchemaTypings.Typing.Function

/-!
# What generators ask of the catalog

A generator asks the catalog one question: whether a namespace declares a type with some id. Catalogs that
give the same answers cannot be told apart by it.

* `Catalog.SameTypes`: two catalogs declare the same types.
* `Scope.withCatalog`: a scope that looks into another catalog.
* `Scope.inlineWithin_withCatalog`: nested types are the same over either catalog.
* `FunctionTyping.expand_withCatalog`, `EventTyping.expand_withCatalog`: so are functions and events.
-/

namespace SchemaTypings

/-- Two catalogs declare types with the same ids in the same namespaces. -/
def Catalog.SameTypes (first second : Catalog) : Prop :=
  ∀ space id, first.hasType space id = second.hasType space id

namespace Scope

/-- The scope with another catalog. -/
def withCatalog (scope : Scope) (other : Catalog) : Scope := { scope with catalog := other }

variable {scope : Scope} {other : Catalog} (h : scope.catalog.SameTypes other)

include h

/-! ## Types -/

/-- Resolving a reference is the one step that looks into the catalog. -/
theorem resolve_withCatalog (target : String) :
    (scope.withCatalog other).resolve target = scope.resolve target := by
  have hlookup : ∀ space id, (scope.withCatalog other).catalog.hasType space id =
      scope.catalog.hasType space id := fun space id => (h space id).symm
  have hlocal : ∀ id, (scope.withCatalog other).isLocal id = scope.isLocal id := fun id =>
    congrArg (fun found => found || scope.isKnown id || scope.isDefined id) (hlookup _ id)
  unfold resolve
  simp only [hlookup, hlocal]
  rfl

theorem kindTyping_withCatalog (inline : InlineTyping) (d : Descriptor) (kind : Kind) (context : Context) :
    d.kindTyping inline (scope.withCatalog other) kind context = d.kindTyping inline scope kind context := by
  cases kind with
  | reference target =>
    simp only [Descriptor.kindTyping, Descriptor.referenceTyping, resolve_withCatalog h]
  | _ => rfl

theorem typing_withCatalog (inline : InlineTyping) (d : Descriptor) (context : Context) :
    (scope.withCatalog other).typing inline d context = scope.typing inline d context := by
  unfold typing
  cases d.overridden? with
  | none => rfl
  | some d' => simp only [kindTyping_withCatalog h]

/-- Nested types are the same over either catalog, however deep they go. -/
theorem inlineWithin_withCatalog (levels : Nat) :
    (scope.withCatalog other).inlineWithin levels = scope.inlineWithin levels := by
  induction levels with
  | zero => rfl
  | succ levels ih =>
    funext d
    simp only [inlineWithin, ih, typing_withCatalog h]
    rfl

theorem generate_withCatalog (d : Descriptor) (context : Context) :
    (scope.withCatalog other).generate d context = scope.generate d context := by
  simp only [generate, attempt, inlineWithin_withCatalog h, typing_withCatalog h]
  rfl

theorem inlineType_withCatalog : (scope.withCatalog other).inlineType = scope.inlineType := by
  funext d
  simp only [inlineType, generate_withCatalog h]

theorem declaration_withCatalog (d : Descriptor) (context : Context) :
    (scope.withCatalog other).declaration d context = scope.declaration d context := by
  simp only [declaration, generate_withCatalog h]

end Scope

variable {scope : Scope} {other : Catalog} (h : scope.catalog.SameTypes other)

include h

/-! ## Functions -/

namespace FunctionTyping

theorem hoistParam_withCatalog (functionName : String) (made : List Declaration) (p : Descriptor) :
    hoistParam functionName (scope.withCatalog other) made p = hoistParam functionName scope made p := by
  unfold hoistParam
  simp only [Scope.declaration_withCatalog h]
  rfl

theorem hoistParams_withCatalog (functionName : String) (made : List Declaration) (ps : List Descriptor) :
    hoistParams functionName (scope.withCatalog other) made ps = hoistParams functionName scope made ps := by
  induction ps generalizing made with
  | nil => rfl
  | cons p rest ih => simp only [hoistParams, hoistParam_withCatalog h, ih]

theorem prepare_withCatalog (d : Descriptor) (name : String) :
    prepare d name (scope.withCatalog other) = prepare d name scope := by
  unfold prepare
  rw [hoistParams_withCatalog h]

theorem overload_withCatalog (d : Descriptor) (name : String) (ps : List Descriptor) :
    overload d name (scope.withCatalog other) ps = overload d name scope ps := by
  unfold overload
  rw [Scope.inlineType_withCatalog h]
  rfl

theorem expand_withCatalog (d : Descriptor) : expand d (scope.withCatalog other) = expand d scope := by
  have hnamed : ∀ f name, expandNamed f name (scope.withCatalog other) = expandNamed f name scope := by
    intro f name
    -- the declarations made for the parameters come on top of either scope
    have hvariants : ∀ made, overload f name ((scope.withCatalog other).extend made) =
        overload f name (scope.extend made) := by
      intro made
      have hextended : (scope.extend made).catalog.SameTypes other := h
      exact funext fun ps => overload_withCatalog hextended f name ps
    unfold expandNamed
    simp only [prepare_withCatalog h, hvariants]
    rfl
  unfold expand
  simp only [hnamed]
  rfl

end FunctionTyping

/-! ## Events -/

namespace EventTyping

theorem listener_withCatalog (event : Descriptor) (ps : List Descriptor) :
    listener event (scope.withCatalog other) ps = listener event scope ps := by
  unfold listener
  rw [Scope.inlineType_withCatalog h]

theorem listeners_withCatalog (event : Descriptor) (lists : List (List Descriptor)) :
    listeners event (scope.withCatalog other) lists = listeners event scope lists := by
  induction lists with
  | nil => rfl
  | cons ps rest ih => simp only [listeners, listener_withCatalog h, ih]

theorem typing_withCatalog (event : Descriptor) :
    typing event (scope.withCatalog other) = typing event scope := by
  unfold typing listenerType
  simp only [listener_withCatalog h, listeners_withCatalog h, Scope.inlineType_withCatalog h]

theorem expand_withCatalog (d : Descriptor) : expand d (scope.withCatalog other) = expand d scope := by
  unfold expand
  simp only [typing_withCatalog h]
  rfl

end EventTyping

end SchemaTypings
