import SchemaTypings.Descriptor.Decoder
import SchemaTypings.Descriptor.Encoder
import SchemaTypings.Proofs.Descriptor.Nodes
import SchemaTypings.Proofs.Report.Outcomes

/-!
# What is known about a descriptor that was read

The descriptors below one that was read were read themselves, from smaller values. So what follows for a descriptor
from the same fact about those below it holds for every descriptor that was read.

* `IsRead`: what the keys of an object can leave in a descriptor.
* `ofJson_induction`: induction over the values that descriptors are read from.
-/

namespace SchemaTypings

theorem Json.orNull_eq_some {α : Type} {read : Json → Except DecodeFault α} {value : Json} {a : α}
    (h : value.orNull read = .ok (some a)) : read value = .ok a := by
  have hread : some <$> read value = .ok (some a) := by
    cases value with
    | null => cases h
    | _ => exact h
  obtain ⟨b, hb, heq⟩ := except_bind_eq_ok.mp hread
  cases heq
  exact hb

/-- A key without a meaning of its own has neither spelling of the host class, nor that of another key. -/
theorem Key.ofString?_eq_none {s : String} (h : Key.ofString? s = none) :
    s ≠ Key.instanceAlias ∧ ∀ key : Key, s ≠ key.spelling := by
  constructor
  · rintro rfl
    exact absurd h (by decide)
  · rintro key rfl
    rw [Key.ofString?_spelling] at h
    cases h

namespace EnumChoice

theorem eq_named {json : Json} {choice : EnumChoice} (h : named? json = some choice) :
    ∃ name description, choice = named name description := by
  cases json with
  | object fields =>
    obtain ⟨found, -, h⟩ := Option.bind_eq_some_iff.mp h
    obtain ⟨name, -, h⟩ := Option.bind_eq_some_iff.mp h
    split at h
    · exact ⟨name, none, (Option.some.inj h).symm⟩
    · obtain ⟨description, -, rfl⟩ := Option.map_eq_some_iff.mp h
      exact ⟨name, description, rfl⟩
  | _ => cases h

/-- Whichever alternative a choice was read as, its JSON is read as the same one. -/
theorem ofJson_toJson_ofJson (json : Json) : ofJson (ofJson json).toJson = ofJson json := by
  cases json with
  | object fields =>
    have hread : ofJson (.object fields) = (named? (.object fields)).getD (other (.object fields)) := rfl
    cases hnamed : named? (.object fields) with
    | none =>
      rw [hnamed, Option.getD_none] at hread
      rw [hread]
      exact hread
    | some choice =>
      obtain ⟨name, description, rfl⟩ := eq_named hnamed
      rw [hread, hnamed, Option.getD_some]
      cases description <;> rfl
  | _ => rfl

end EnumChoice

namespace Descriptor

/-! ## Readers as combinations of readers -/

theorem readOrNull_eq (value : Json) : readOrNull value = value.orNull ofJson := by
  cases value <;> rfl

theorem readAll_eq (items : List Json) : readAll items = items.mapM ofJson := by
  induction items with
  | nil => rfl
  | cons item rest ih =>
    rw [readAll, List.mapM_cons, ih]
    rfl

theorem readListOrNull_eq (value : Json) :
    readListOrNull value = value.orNull fun value => value.readItems >>= (·.mapM ofJson) := by
  cases value with
  | array items =>
    rw [readListOrNull, readAll_eq]
    rfl
  | _ => rfl

theorem readMap_eq (fields : Fields Json) : readMap fields = fields.mapM readMapField := by
  induction fields with
  | nil => rfl
  | cons field rest ih =>
    rw [readMap, List.mapM_cons, ih]
    rfl

theorem readMapOrNull_eq (value : Json) :
    readMapOrNull value = value.orNull fun value => value.readFields >>= (·.mapM readMapField) := by
  cases value with
  | object fields =>
    rw [readMapOrNull, readMap_eq]
    rfl
  | _ => rfl

/-! ## Where descriptors come from -/

/-- The descriptor was read from a value, or from a part of it. -/
def ComesFrom (value : Json) (d : Descriptor) : Prop :=
  ∃ part, sizeOf part ≤ sizeOf value ∧ ofJson part = .ok d

theorem comesFrom_of_readOrNull {value : Json} {found : Option Descriptor}
    (h : readOrNull value = .ok found) : ∀ d ∈ found.toList, ComesFrom value d := by
  intro d hd
  obtain rfl := Option.mem_toList.mp hd
  rw [readOrNull_eq] at h
  exact ⟨value, Nat.le_refl _, Json.orNull_eq_some h⟩

theorem comesFrom_of_readListOrNull {value : Json} {found : Option (List Descriptor)}
    (h : readListOrNull value = .ok found) : ∀ d ∈ found.getD [], ComesFrom value d := by
  intro d hd
  cases found with
  | none => cases hd
  | some ds =>
    rw [readListOrNull_eq] at h
    obtain ⟨items, hitems, hread⟩ := except_bind_eq_ok.mp (Json.orNull_eq_some h)
    obtain ⟨item, hitem, hofJson⟩ := mem_of_except_mapM hread d hd
    cases value with
    | array =>
      cases hitems
      refine ⟨item, ?_, hofJson⟩
      have hlt := List.sizeOf_lt_of_mem hitem
      rw [Json.array.sizeOf_spec]
      omega
    | _ => cases hitems

theorem comesFrom_of_readMapOrNull {value : Json} {found : Option (Fields Descriptor)}
    (h : readMapOrNull value = .ok found) : ∀ d ∈ (found.getD []).map (·.2), ComesFrom value d := by
  intro d hd
  cases found with
  | none => cases hd
  | some entries =>
    obtain ⟨entry, hentry, rfl⟩ := List.mem_map.mp hd
    rw [readMapOrNull_eq] at h
    obtain ⟨fields, hfields, hread⟩ := except_bind_eq_ok.mp (Json.orNull_eq_some h)
    obtain ⟨⟨key, part⟩, hfield, hentryRead⟩ := mem_of_except_mapM hread entry hentry
    obtain ⟨e, hofJson, heq⟩ := except_bind_eq_ok.mp hentryRead
    cases heq
    cases value with
    | object =>
      cases hfields
      refine ⟨part, ?_, hofJson⟩
      have hlt := List.sizeOf_lt_of_mem hfield
      rw [Prod.mk.sizeOf_spec] at hlt
      rw [Json.object.sizeOf_spec]
      omega
    | _ => cases hfields

theorem comesFrom_of_readAdditionalOrNull {value : Json} {d : Descriptor}
    (h : readAdditionalOrNull value = .ok (some (.schema d))) : ComesFrom value d := by
  cases value with
  | object fields =>
    refine ⟨.object fields, Nat.le_refl _, ?_⟩
    rw [readAdditionalOrNull] at h
    rw [ofJson]
    split at h
    · cases h
      assumption
    · cases h
  | _ => cases h

/-! ## What reading leaves in a descriptor -/

/-- A descriptor as reading may leave it: what it says is never `null`, its choices are read again as they are, its
kept keys have no meaning of their own, and `P` holds for the descriptors directly below it. -/
structure IsRead (P : Descriptor → Prop) (d : Descriptor) : Prop where
  value : d.value ≠ some .null
  enumChoices : ∀ choice ∈ d.enumChoices.getD [], EnumChoice.ofJson choice.toJson = choice
  extra : ∀ entry ∈ d.extra, Key.ofString? entry.1 = none
  choices : ∀ e ∈ d.choices.getD [], P e
  items : ∀ e ∈ d.items.toList, P e
  properties : ∀ e ∈ (d.properties.getD []).map (·.2), P e
  patternProperties : ∀ e ∈ (d.patternProperties.getD []).map (·.2), P e
  additional : ∀ e, d.additionalProperties = some (.schema e) → P e
  functions : ∀ e ∈ d.functions.getD [], P e
  parameters : ∀ e ∈ d.parameters.getD [], P e
  extraParameters : ∀ e ∈ d.extraParameters.getD [], P e
  returns : ∀ e ∈ d.returns.toList, P e

variable {P : Descriptor → Prop}

theorem IsRead.empty : IsRead P {} where
  value := nofun
  enumChoices := List.forall_mem_nil _
  extra := List.forall_mem_nil _
  choices := List.forall_mem_nil _
  items := List.forall_mem_nil _
  properties := List.forall_mem_nil _
  patternProperties := List.forall_mem_nil _
  additional := nofun
  functions := List.forall_mem_nil _
  parameters := List.forall_mem_nil _
  extraParameters := List.forall_mem_nil _
  returns := List.forall_mem_nil _

theorem IsRead.forall_children {d : Descriptor} (hd : IsRead P d) :
    ∀ e ∈ d.children, P e := by
  have hadditional : ∀ e ∈ d.additional?.toList, P e := by
    intro e he
    rw [Option.mem_toList, additional?] at he
    split at he
    next child hchild =>
      cases he
      exact hd.additional _ hchild
    next => cases he
  simp only [children, List.forall_mem_append]
  exact ⟨hd.choices, hd.items, hd.properties, hd.patternProperties, hadditional, hd.functions,
    hd.parameters, hd.extraParameters, hd.returns⟩

/-- One more field leaves a descriptor as reading may leave it. -/
theorem IsRead.readKey {hosted : Bool} {draft d : Descriptor} {key : String} {value : Json}
    (hdraft : IsRead P draft) (hbelow : ∀ e, ComesFrom value e → P e)
    (h : Descriptor.readKey hosted draft (key, value) = .ok d) : IsRead P d := by
  unfold Descriptor.readKey at h
  cases hkey : Key.ofString? key with
  | none =>
    simp only [hkey] at h
    cases h
    exact { hdraft with
      extra := List.forall_mem_append.mpr ⟨hdraft.extra, List.forall_mem_singleton.mpr hkey⟩ }
  | some known =>
    cases known <;> simp only [hkey] at h
    case value =>
      cases h
      refine { hdraft with value := ?_ }
      cases value <;> nofun
    case enumChoices =>
      obtain ⟨items, -, h⟩ := except_bind_eq_ok.mp h
      cases h
      refine { hdraft with enumChoices := fun choice hchoice => ?_ }
      cases items with
      | none => cases hchoice
      | some items =>
        obtain ⟨item, -, rfl⟩ := List.mem_map.mp hchoice
        exact EnumChoice.ofJson_toJson_ofJson item
    case isInstanceOf =>
      split at h
      · cases h
      · obtain ⟨found, -, h⟩ := except_bind_eq_ok.mp h
        cases h
        exact { hdraft with }
    all_goals
      obtain ⟨found, hfound, h⟩ := except_bind_eq_ok.mp h
      have hd := Except.ok.inj h
      subst hd
    case choices =>
      exact { hdraft with choices := fun e he => hbelow e (comesFrom_of_readListOrNull hfound e he) }
    case items =>
      exact { hdraft with items := fun e he => hbelow e (comesFrom_of_readOrNull hfound e he) }
    case properties =>
      exact { hdraft with
        properties := fun e he => hbelow e (comesFrom_of_readMapOrNull hfound e he) }
    case patternProperties =>
      exact { hdraft with
        patternProperties := fun e he => hbelow e (comesFrom_of_readMapOrNull hfound e he) }
    case additionalProperties =>
      exact { hdraft with
        additional := fun e he => hbelow e (comesFrom_of_readAdditionalOrNull (hfound.trans (congrArg _ he))) }
    case functions =>
      exact { hdraft with functions := fun e he => hbelow e (comesFrom_of_readListOrNull hfound e he) }
    case parameters =>
      exact { hdraft with
        parameters := fun e he => hbelow e (comesFrom_of_readListOrNull hfound e he) }
    case extraParameters =>
      exact { hdraft with
        extraParameters := fun e he => hbelow e (comesFrom_of_readListOrNull hfound e he) }
    case returns =>
      exact { hdraft with returns := fun e he => hbelow e (comesFrom_of_readOrNull hfound e he) }
    all_goals exact { hdraft with }

theorem IsRead.readKeys {hosted : Bool} {draft d : Descriptor} {fields : Fields Json}
    (hdraft : IsRead P draft) (hbelow : ∀ field ∈ fields, ∀ e, ComesFrom field.2 e → P e)
    (h : Descriptor.readKeys hosted draft fields = .ok d) : IsRead P d := by
  induction fields generalizing hosted draft with
  | nil =>
    cases h
    exact hdraft
  | cons field rest ih =>
    obtain ⟨hfirst, hrest⟩ := List.forall_mem_cons.mp hbelow
    rw [Descriptor.readKeys] at h
    obtain ⟨next, hnext, h⟩ := except_bind_eq_ok.mp h
    exact ih (hdraft.readKey hfirst hnext) hrest h

/-- **Induction over what descriptors are read from.** A property holds for every descriptor that was read if it
follows, for a descriptor as reading may leave it, from the property for those directly below it. -/
theorem ofJson_induction (step : ∀ d, IsRead P d → P d) {json : Json} {d : Descriptor}
    (h : ofJson json = .ok d) : P d := by
  induction hsize : sizeOf json using Nat.strongRecOn generalizing json d with
  | ind size ih =>
    subst hsize
    cases json with
    | object fields =>
      refine step d (IsRead.empty.readKeys (fun field hfield e ⟨part, hpart, hread⟩ => ?_) h)
      refine ih (sizeOf part) ?_ hread rfl
      have hlt := List.sizeOf_lt_of_mem hfield
      obtain ⟨key, value⟩ := field
      rw [Prod.mk.sizeOf_spec] at hlt
      rw [Json.object.sizeOf_spec]
      simp only at hpart
      omega
    | _ => cases h

end Descriptor

end SchemaTypings
