import SchemaTypings.Typing.Generate

/-!
# The parts of a descriptor

The type of a descriptor is put together from the types of other descriptors, its parts. Which ones
are asked for is decided by the kind; a declared return type is asked for only where the callback
hands over nothing.

* `Signature.Part`: result, return type and visible parameters of a signature.
* `ObjectTyping.Part`: properties, signatures of methods, patterns and additional properties.
* `Descriptor.Part`: the parts of a descriptor of any kind.
-/

namespace SchemaTypings

/-- The descriptors whose types a signature asks for. -/
inductive Signature.Part (inline : InlineTyping) (d : Descriptor) (ps : List Descriptor)
    (handling : CallbackHandling) : Descriptor → Prop
  | result {e : Descriptor} (h : consumed? handling ps = some e) : Part inline d ps handling e
  | returned {e : Descriptor} (h : d.returns = some e)
      (hv : (handedOver inline ps handling).isVoid = true) : Part inline d ps handling e
  | param {e : Descriptor} (h : e ∈ visible handling ps) : Part inline d ps handling e

/-- The parameter whose type is the result stands in one of the parameters. -/
theorem Signature.resultParameter?_mem {ps : List Descriptor} {e : Descriptor}
    (h : resultParameter? ps = some e) : ∃ p ∈ ps, e ∈ p.params := by
  unfold resultParameter? at h
  split at h
  · cases h
  next callback hcallback =>
    split at h
    next result hparams =>
      cases h
      refine ⟨callback, List.mem_of_find?_eq_some hcallback, ?_⟩
      rw [hparams]
      exact List.mem_singleton_self e
    next => cases h

/-- A signature asks for parameters, for parameters of parameters and for the return type. -/
theorem Signature.Part.cases_place {inline : InlineTyping} {d e : Descriptor} {ps : List Descriptor}
    {handling : CallbackHandling} (h : Signature.Part inline d ps handling e) :
    d.returns = some e ∨ ∃ p ∈ ps, e = p ∨ e ∈ p.params := by
  cases h with
  | result h =>
    cases handling with
    | keep => cases h
    | consume =>
      obtain ⟨p, hp, he⟩ := Signature.resultParameter?_mem h
      exact .inr ⟨p, hp, .inr he⟩
  | returned h => exact .inl h
  | param h =>
    cases handling with
    | keep => exact .inr ⟨e, h, .inl rfl⟩
    | consume => exact .inr ⟨e, (List.mem_filter.mp h).1, .inl rfl⟩

/-- The descriptors whose types an object asks for. -/
inductive ObjectTyping.Part (inline : InlineTyping) (d : Descriptor) : Descriptor → Prop
  | property {key : String} {e : Descriptor} (h : (key, e) ∈ d.properties.getD []) :
      Part inline d e
  | method {f g e : Descriptor} {ps : List Descriptor} (h : f ∈ d.functions.getD [])
      (hs : f.isUnsupported = false) (hg : f.overridden? = some g)
      (hps : ps ∈ Variants.all g.params) (he : Signature.Part inline g ps .consume e) :
      Part inline d e
  | pattern {key : String} {e : Descriptor} (h : (key, e) ∈ d.patternProperties.getD []) :
      Part inline d e
  | additional {e : Descriptor} (h : d.additionalProperties = some (.schema e)) :
      Part inline d e

/-- The descriptors whose types a descriptor asks for, once the overrides are applied to it. -/
inductive Descriptor.Part (inline : InlineTyping) (d : Descriptor) : Descriptor → Prop
  | item {e : Descriptor} (h : d.kind? = some (.array e)) : Part inline d e
  | choice {es : List Descriptor} {e : Descriptor} (h : d.kind? = some (.union es))
      (he : e ∈ es) : Part inline d e
  | signature {e : Descriptor} (h : d.kind? = some .function)
      (he : Signature.Part inline d d.params d.callbackHandling e) : Part inline d e
  | member {e : Descriptor} (h : d.kind? = some .object)
      (he : ObjectTyping.Part inline d e) : Part inline d e

end SchemaTypings
