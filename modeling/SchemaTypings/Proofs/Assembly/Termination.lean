import SchemaTypings.Proofs.Assembly.Traces
import SchemaTypings.Proofs.Typing.Nesting

/-!
# Generation comes to an end

The entries of a namespace ask for types, some of them of descriptors that do not stand in the schema: a
parameter as a type of its own, a reference in its place, a parameter that has become mandatory. None of these
is nested more deeply than the entry, so the bound for descriptors is one for entries.

* `Entry.AsksFor`, `Entry.Signs`: the descriptors and the signatures that an entry generates itself.
* `Entry.AsksFor.within`: they need no more levels than the entry is deep.
* `Scope.generation_terminates`: generation comes to an end for every descriptor and every entry.
-/

namespace SchemaTypings

open FunctionTyping (Hoists asNamedType prepare)
open Descriptor (Within)

/-! ## What entries ask for -/

/-- The descriptor of an entry. -/
def Entry.descriptor : Entry → Descriptor
  | type d | function d | event d | property _ d => d

/-- The signatures that an entry generates itself, with the scopes in which it does so. -/
inductive Entry.Signs (scope : Scope) :
    Entry → Scope → Descriptor → List Descriptor → CallbackHandling → Prop
  /-- Every variant of a function, over what is left of its parameters, -/
  | variant {d f : Descriptor} {functionName : String} {ps : List Descriptor}
      (hf : d.overridden? = some f) (hn : f.identifier? = some functionName)
      (hps : ps ∈ Variants.all (prepare f functionName scope).value.1) :
      Signs scope (.function d) (scope.extend (prepare f functionName scope).value.2) f ps .consume
  /-- and every listener of an event. -/
  | listener {d event : Descriptor} {ps : List Descriptor} (hd : d.overridden? = some event)
      (hps : ps ∈ EventTyping.signatures event) : Signs scope (.event d) scope event ps .keep

/-- The descriptors that an entry generates itself, with the scopes in which it does so. -/
inductive Entry.AsksFor (scope : Scope) : Entry → Scope → Descriptor → Prop
  | type {d : Descriptor} : AsksFor scope (.type d) scope d
  /-- A parameter becomes a type of the namespace. -/
  | parameter {d f p : Descriptor} {functionName name : String} (hf : d.overridden? = some f)
      (hn : f.identifier? = some functionName)
      (hinner : (Variants.innerPositions f.params).isEmpty = false)
      (hp : Hoists functionName scope [] f.params p name) :
      AsksFor scope (.function d) scope (asNamedType p name)
  | signature {entry : Entry} {place : Scope} {f e : Descriptor} {ps : List Descriptor}
      {handling : CallbackHandling} (hs : entry.Signs scope place f ps handling)
      (he : Signature.Part place.inlineType f ps handling e) : AsksFor scope entry place e
  | extra {d event e : Descriptor} (hd : d.overridden? = some event)
      (hextra : event.hasExtraParameters = true) (he : e ∈ event.extraParams) :
      AsksFor scope (.event d) scope e
  | property {key : String} {d : Descriptor} : AsksFor scope (.property key d) scope d
  /-- A constant goes by its key. -/
  | constant {key : String} {d : Descriptor} {value : Json}
      (hk : d.kind? = some (.staticValue value)) :
      AsksFor scope (.property key d) scope { d with name := some key }

variable {scope place : Scope} {n : Nat} {d e : Descriptor}

/-! ## Levels -/

theorem Descriptor.Within.mono {m : Nat} (h : d.Within n) (hn : n ≤ m) : d.Within m := by
  cases h with
  | plain h => exact .plain (Nat.le_trans h hn)
  | responder h => exact .responder (Nat.le_trans h hn)
  | leaf h => exact .leaf h

theorem FunctionTyping.Hoists.mem {functionName name : String} {made : List Declaration}
    {ps : List Descriptor} {p : Descriptor} (h : Hoists functionName scope made ps p name) :
    p ∈ ps := by
  induction h with
  | here => exact List.mem_cons_self
  | later _ ih => exact List.mem_cons_of_mem _ ih

/-- A parameter does not get deeper as a type of its own. -/
theorem FunctionTyping.depth_asNamedType (p : Descriptor) (name : String) :
    (asNamedType p name).depth = p.depth := by
  rw [Descriptor.depth_eq, Descriptor.depth_eq p]
  rfl

namespace Entry

variable {entry : Entry} {f : Descriptor} {ps : List Descriptor} {handling : CallbackHandling}

/-- What a signature of an entry asks for needs one level less than the entry is deep, although the parameters
may be those of an override. -/
theorem Signs.within (h : entry.Signs scope place f ps handling)
    (hdepth : entry.descriptor.depth = n + 1)
    (he : Signature.Part place.inlineType f ps handling e) : e.Within n := by
  cases h with
  | @variant d f functionName ps hf hn hps =>
    have hlow : d.Low n := Descriptor.low_of_depth_le (Nat.le_of_eq hdepth)
    have hprepared : ∀ p ∈ (prepare f functionName scope).value.1, p.Within n :=
      FunctionTyping.forall_mem_prepare (fun p hp => hlow.param_overridden hf hp)
        fun p _ name => .leaf rfl
    exact .signature (Within.variant hprepared hps) (fun e he => hlow.returns_overridden hf he) he
  | @listener d f ps hd hps =>
    have hlow : d.Low n := Descriptor.low_of_depth_le (Nat.le_of_eq hdepth)
    have hparams : ∀ p ∈ f.params, p.Within n := fun p hp => hlow.param_overridden hd hp
    have hlist : ∀ p ∈ ps, p.Within n :=
      EventTyping.forall_mem_signatures hparams (fun p hp => (hparams p hp).withOptional false) hps
    exact .signature hlist (fun e he => hlow.returns_overridden hd he) he

/-- A signature of an entry is settled by as many rounds as the entry has levels. -/
theorem Signs.typing_eq (h : entry.Signs scope place f ps handling) (beyond : InlineTyping)
    (context : Context) :
    Signature.typing place.inlineType f ps handling context =
      Signature.typing (place.inlineRound^[entry.descriptor.depth] beyond) f ps handling context := by
  obtain ⟨n, hdepth⟩ := entry.descriptor.exists_depth_eq
  refine Signature.typing_congr (fun e he => ?_) context
  rw [hdepth, place.iterate_inlineRound beyond (h.within hdepth he) (Nat.lt_succ_self n)]

/-- **What an entry asks for needs no more levels than the entry is deep.** -/
theorem AsksFor.within (h : entry.AsksFor scope place e) : e.Within entry.descriptor.depth := by
  obtain ⟨n, hdepth⟩ := entry.descriptor.exists_depth_eq
  have hless : n ≤ entry.descriptor.depth := Nat.le_of_succ_le (Nat.le_of_eq hdepth.symm)
  cases h with
  | type => exact .plain (Nat.le_refl e.depth)
  | @parameter d f p functionName name hf hn hinner hp =>
    have hlow : d.Low n := Descriptor.low_of_depth_le (Nat.le_of_eq hdepth)
    have hbelow : p.depth ≤ n + 1 := (hlow.param_overridden hf hp.mem).depth_le
    refine .plain ?_
    rw [FunctionTyping.depth_asNamedType]
    exact Nat.le_trans hbelow (Nat.le_of_eq hdepth.symm)
  | signature hs he => exact (hs.within hdepth he).mono hless
  | @extra d f e hd hextra he =>
    have hlow : d.Low n := Descriptor.low_of_depth_le (Nat.le_of_eq hdepth)
    have hbelow : e.Within n :=
      hlow.other_overridden hd (Descriptor.mem_children_bare.mpr (by simp [he]))
    exact hbelow.mono hless
  | property => exact .plain (Nat.le_refl e.depth)
  | @constant key d value hk =>
    have hsame : { d with name := some key }.depth = d.depth := by
      rw [Descriptor.depth_eq, Descriptor.depth_eq d]
      rfl
    exact .plain (Nat.le_of_eq hsame)

end Entry

/-! ## The bound is met -/

namespace Descriptor

/-- A callback for a response. -/
def responder : Descriptor := { name := some responderName, typeName := some "function" }

/-- A listener that hands over such a callback: two levels, and an override adds the third. -/
def externalListener : Descriptor :=
  { name := some "onMessageExternal", typeName := some "function", parameters := some [responder] }

theorem overridden_externalListener :
    externalListener.overridden? = some externalListener.reshapeResponders := by
  have hparams : externalListener.overridden?.map (fun d => d.params.map (·.hasParameters)) =
      some [true] := by decide +kernel
  obtain ⟨d, ho, hd⟩ := Option.map_eq_some_iff.mp hparams
  rcases eq_of_overridden ho with rfl | rfl
  · cases hd
  · exact ho

theorem overridden_responder : responder.asResponder.overridden? = some responder.asResponder := by
  have hnone : responder.asResponder.override?.isNone = true := by decide +kernel
  unfold overridden?
  rw [Option.isNone_iff_eq_none.mp hnone]

end Descriptor

namespace Scope

open Descriptor (externalListener responder responseParameter)

theorem isChain_externalListener (scope : Scope) : List.IsChain scope.AsksFor
    [externalListener, responder.asResponder, responseParameter] := by
  refine List.isChain_cons_cons.mpr ⟨?_, List.isChain_cons_cons.mpr ⟨?_, .singleton _⟩⟩
  · exact ⟨_, Descriptor.overridden_externalListener,
      .signature rfl (.param (List.mem_singleton_self _))⟩
  · exact ⟨_, Descriptor.overridden_responder, .signature rfl (.param (List.mem_singleton_self _))⟩

/-! ## Termination -/

/-- What it means that generation comes to an end in a scope. -/
structure Terminates (scope : Scope) : Prop where
  /-- Nothing asks for others without end: -/
  wellFounded : WellFounded fun e d => scope.AsksFor d e
  /-- there are at most as many descriptors in a chain as the first one has levels, and one more. -/
  bounded : ∀ d rest, List.IsChain scope.AsksFor (d :: rest) → (d :: rest).length ≤ d.depth + 1
  /-- An override may make a descriptor deeper, by one level, -/
  deepened : ∀ d d' : Descriptor, d.overridden? = some d' → d'.depth ≤ d.depth + 1
  /-- with a parameter that asks for nothing, -/
  ended : ∀ e, ¬scope.AsksFor responseParameter e
  /-- and where it does there is a chain of that length. -/
  attained : ∃ (d d' : Descriptor) (rest : List Descriptor), d.overridden? = some d' ∧ d.depth < d'.depth ∧
    List.IsChain scope.AsksFor (d :: rest) ∧ (d :: rest).length = d.depth + 1
  /-- Below a descriptor as many rounds are enough as it has levels, in every context, whatever the types are
  that the rounds begin with, -/
  rounds : ∀ (beyond : InlineTyping) d context,
    scope.attempt d context = scope.typing (scope.inlineRound^[d.depth] beyond) d context
  /-- so that no other types solve the recursion. -/
  solution : ∀ inline : InlineTyping, scope.inlineRound inline = inline ↔ inline = scope.inlineType
  /-- What an entry asks for, in the schema or in place of what stands there, is bounded by the entry, -/
  entryBounded : ∀ (entry : Entry) place e, entry.AsksFor scope place e → ∀ rest,
    List.IsChain place.AsksFor (e :: rest) → (e :: rest).length ≤ entry.descriptor.depth + 1
  /-- so are the rounds for it, -/
  entryRounds : ∀ (entry : Entry) place e, entry.AsksFor scope place e →
    ∀ (beyond : InlineTyping) context, place.attempt e context =
      place.typing (place.inlineRound^[entry.descriptor.depth] beyond) e context
  /-- and those for every variant and every listener. -/
  entrySignatures : ∀ (entry : Entry) place f ps handling, entry.Signs scope place f ps handling →
    ∀ (beyond : InlineTyping) context, Signature.typing place.inlineType f ps handling context =
      Signature.typing (place.inlineRound^[entry.descriptor.depth] beyond) f ps handling context

/-- **Generation terminates in every scope**, on every descriptor and every entry. -/
theorem generation_terminates (scope : Scope) : scope.Terminates where
  wellFounded := scope.wellFounded_asksFor
  bounded d _ h := length_le_of_isChain (.plain (Nat.le_refl d.depth)) h
  deepened _ _ ho := Descriptor.depth_overridden_le ho
  ended _ := not_asksFor_of_within (.leaf rfl)
  attained := ⟨externalListener, _, _, Descriptor.overridden_externalListener, by decide,
    scope.isChain_externalListener, rfl⟩
  rounds beyond d context := attempt_eq_rounds beyond (.plain (Nat.le_refl d.depth)) context
  solution _ := inlineRound_eq_iff
  entryBounded _ _ _ h _ hchain := length_le_of_isChain h.within hchain
  entryRounds _ _ _ h beyond context := attempt_eq_rounds beyond h.within context
  entrySignatures _ _ _ _ _ h beyond context := h.typing_eq beyond context

end Scope

end SchemaTypings
