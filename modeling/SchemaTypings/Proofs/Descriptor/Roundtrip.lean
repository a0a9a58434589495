import SchemaTypings.Proofs.Descriptor.Reading

/-!
# Reading back what was written

A descriptor that was read is written as JSON that is read as the same descriptor. The written keys are read one after
another, and each puts one part of the descriptor in its place; the kept keys follow.

* `part?`: what is written under a key with a meaning of its own.
* `withPart`: a draft with the part of another descriptor that stands under one key.
* `readKey_part`: reading what is written under a key puts that part in its place.
* `ofJson_toJson`: reading, writing and reading again gives what was read first.
-/

namespace SchemaTypings.Descriptor

/-! ## Parts -/

/-- What is written under a key. -/
def part? (d : Descriptor) : Key → Option Json
  | .type => d.typeName.map .text
  | .id => d.id.map .text
  | .name => d.name.map .text
  | .description => d.description.map .text
  | .deprecated => d.deprecated.map Marker.toJson
  | .unsupported => d.unsupported.map .bool
  | .optional => d.optional.map Marker.toJson
  | .reference => d.reference.map .text
  | .choices => d.choices.map fun ds => .array (ds.map toJson)
  | .value => d.value
  | .enumChoices => d.enumChoices.map fun choices => .array (choices.map EnumChoice.toJson)
  | .items => d.items.map toJson
  | .properties => d.properties.map fun entries => .object (entries.map entryToJson)
  | .patternProperties => d.patternProperties.map fun entries => .object (entries.map entryToJson)
  | .additionalProperties => d.additionalProperties.map additionalToJson
  | .functions => d.functions.map fun ds => .array (ds.map toJson)
  | .isInstanceOf => d.isInstanceOf.map .text
  | .parameters => d.parameters.map fun ds => .array (ds.map toJson)
  | .extraParameters => d.extraParameters.map fun ds => .array (ds.map toJson)
  | .returns => d.returns.map toJson
  | .asynchronous => d.asynchronous.map Marker.toJson

/-- A draft with the part of a descriptor that stands under a key. -/
def withPart (d draft : Descriptor) : Key → Descriptor
  | .type => { draft with typeName := d.typeName }
  | .id => { draft with id := d.id }
  | .name => { draft with name := d.name }
  | .description => { draft with description := d.description }
  | .deprecated => { draft with deprecated := d.deprecated }
  | .unsupported => { draft with unsupported := d.unsupported }
  | .optional => { draft with optional := d.optional }
  | .reference => { draft with reference := d.reference }
  | .choices => { draft with choices := d.choices }
  | .value => { draft with value := d.value }
  | .enumChoices => { draft with enumChoices := d.enumChoices }
  | .items => { draft with items := d.items }
  | .properties => { draft with properties := d.properties }
  | .patternProperties => { draft with patternProperties := d.patternProperties }
  | .additionalProperties => { draft with additionalProperties := d.additionalProperties }
  | .functions => { draft with functions := d.functions }
  | .isInstanceOf => { draft with isInstanceOf := d.isInstanceOf }
  | .parameters => { draft with parameters := d.parameters }
  | .extraParameters => { draft with extraParameters := d.extraParameters }
  | .returns => { draft with returns := d.returns }
  | .asynchronous => { draft with asynchronous := d.asynchronous }

theorem part?_withPart_of_ne {d draft : Descriptor} {key other : Key} (h : other ≠ key) :
    (d.withPart draft key).part? other = draft.part? other := by
  cases key <;> cases other <;> first | rfl | exact absurd rfl h

/-- A part that is absent on both sides changes nothing. -/
theorem withPart_eq_self {d draft : Descriptor} {key : Key} (hd : d.part? key = none)
    (hdraft : draft.part? key = none) : d.withPart draft key = draft := by
  cases draft
  cases key <;> simp_all [part?, withPart]

/-- A draft with further keys that are kept. -/
def keeping (draft : Descriptor) (extra : Fields Json) : Descriptor :=
  { draft with extra := draft.extra ++ extra }

/-- A descriptor is its parts and its kept keys. -/
theorem foldl_withPart_keeping (d : Descriptor) :
    (Key.all.foldl d.withPart {}).keeping d.extra = d := by
  cases d
  rfl

/-! ## What is written -/

theorem listToJson?_eq (ds : Option (List Descriptor)) :
    listToJson? ds = ds.map fun ds => .array (ds.map toJson) := by
  have hlist : ∀ ds, listToJson ds = ds.map toJson := by
    intro ds
    induction ds with
    | nil => rfl
    | cons d ds ih => rw [listToJson, ih, List.map_cons]
  cases ds with
  | none => rfl
  | some ds => rw [listToJson?, hlist, Option.map_some]

theorem mapToJson?_eq (entries : Option (Fields Descriptor)) :
    mapToJson? entries = entries.map fun entries => .object (entries.map entryToJson) := by
  have hmap : ∀ entries, mapToJson entries = entries.map entryToJson := by
    intro entries
    induction entries with
    | nil => rfl
    | cons entry rest ih => rw [mapToJson, ih, List.map_cons]
  cases entries with
  | none => rfl
  | some entries => rw [mapToJson?, hmap, Option.map_some]

theorem toJson?_eq (d : Option Descriptor) : toJson? d = d.map toJson := by
  cases d <;> rfl

theorem additionalToJson?_eq (additional : Option (Additional Descriptor)) :
    additionalToJson? additional = additional.map additionalToJson := by
  cases additional <;> rfl

/-- A descriptor is written part by part, and then with its kept keys. -/
theorem toJson_eq (d : Descriptor) :
    d.toJson = .object ((Key.all.flatMap fun key => field key (d.part? key)) ++ d.extra) := by
  cases d
  rw [toJson]
  simp only [listToJson?_eq, mapToJson?_eq, toJson?_eq, additionalToJson?_eq, Key.all, part?,
    List.flatMap_cons, List.flatMap_nil, List.append_assoc, List.append_nil]

/-! ## Reading a part -/

/-- The descriptor is what is read from its JSON. -/
abbrev ReadsBack (d : Descriptor) : Prop := ofJson d.toJson = .ok d

theorem toJson_ne_null (d : Descriptor) : d.toJson ≠ .null := by
  rw [toJson_eq]
  nofun

/-- A part that is not written as `null` and read back is read back behind its key. -/
theorem orNull_written {α : Type} {read : Json → Except DecodeFault α} {write : α → Json}
    {part : Option α} {value : Json} (hwritten : part.map write = some value)
    (hback : ∀ a ∈ part, write a ≠ .null ∧ read (write a) = .ok a) : value.orNull read = .ok part := by
  obtain ⟨a, rfl, rfl⟩ := Option.map_eq_some_iff.mp hwritten
  obtain ⟨hnull, hread⟩ := hback a rfl
  have horNull : (write a).orNull read = some <$> read (write a) := by
    cases hjson : write a with
    | null => exact absurd hjson hnull
    | _ => rfl
  rw [horNull, hread]
  rfl

theorem readMarker_written {among : Alternatives} {part : Option Marker} {value : Json}
    (h : part.map Marker.toJson = some value) : value.orNull (Marker.ofJson among) = .ok part :=
  orNull_written h fun marker _ => by cases marker <;> exact ⟨nofun, rfl⟩

theorem readText_written {part : Option String} {value : Json} (h : part.map Json.text = some value) :
    value.orNull Json.readText = .ok part :=
  orNull_written h fun _ _ => ⟨nofun, rfl⟩

theorem readBool_written {part : Option Bool} {value : Json} (h : part.map Json.bool = some value) :
    value.orNull Json.readBool = .ok part :=
  orNull_written h fun _ _ => ⟨nofun, rfl⟩

variable {value : Json}

theorem readOrNull_written {part : Option Descriptor} (h : part.map toJson = some value)
    (hback : ∀ e ∈ part.toList, e.ReadsBack) : readOrNull value = .ok part := by
  rw [readOrNull_eq]
  exact orNull_written h fun e he => ⟨toJson_ne_null e, hback e (Option.mem_toList.mpr he)⟩

theorem readListOrNull_written {part : Option (List Descriptor)}
    (h : (part.map fun ds => Json.array (ds.map toJson)) = some value)
    (hback : ∀ e ∈ part.getD [], e.ReadsBack) : readListOrNull value = .ok part := by
  rw [readListOrNull_eq]
  refine orNull_written h fun ds hds => ⟨nofun, ?_⟩
  cases hds
  exact except_mapM_map hback

theorem readMapOrNull_written {part : Option (Fields Descriptor)}
    (h : (part.map fun entries => Json.object (entries.map entryToJson)) = some value)
    (hback : ∀ e ∈ (part.getD []).map (·.2), e.ReadsBack) :
    readMapOrNull value = .ok part := by
  rw [readMapOrNull_eq]
  refine orNull_written h fun entries hentries => ⟨nofun, ?_⟩
  cases hentries
  refine except_mapM_map fun entry hentry => ?_
  obtain ⟨key, e⟩ := entry
  rw [entryToJson, readMapField, hback e (List.mem_map_of_mem hentry)]
  rfl

theorem readAdditionalOrNull_written {part : Option (Additional Descriptor)}
    (h : part.map additionalToJson = some value)
    (hback : ∀ e, part = some (.schema e) → e.ReadsBack) :
    readAdditionalOrNull value = .ok part := by
  obtain ⟨additional, rfl, rfl⟩ := Option.map_eq_some_iff.mp h
  cases additional with
  | allowed any => rfl
  | schema e =>
    have he := hback e rfl
    rw [ReadsBack, toJson_eq, ofJson] at he
    rw [additionalToJson, toJson_eq, readAdditionalOrNull, he]

/-- **Reading what is written under a key puts the part in its place.** -/
theorem readKey_part {d : Descriptor} {key : Key} {hosted : Bool} (draft : Descriptor) (hd : IsRead ReadsBack d)
    (hpart : d.part? key = some value) (hhosted : hosted = true → key ≠ .isInstanceOf) :
    readKey hosted draft (key.spelling, value) = .ok (d.withPart draft key) := by
  unfold readKey
  simp only [Key.ofString?_spelling]
  cases key <;> rw [part?] at hpart <;> simp only [withPart]
  case type | id | name | description | reference => rw [readText_written hpart]; rfl
  case deprecated | optional | asynchronous => rw [readMarker_written hpart]; rfl
  case unsupported => rw [readBool_written hpart]; rfl
  case choices => rw [readListOrNull_written hpart hd.choices]; rfl
  case functions => rw [readListOrNull_written hpart hd.functions]; rfl
  case parameters => rw [readListOrNull_written hpart hd.parameters]; rfl
  case extraParameters => rw [readListOrNull_written hpart hd.extraParameters]; rfl
  case items => rw [readOrNull_written hpart hd.items]; rfl
  case returns => rw [readOrNull_written hpart hd.returns]; rfl
  case properties => rw [readMapOrNull_written hpart hd.properties]; rfl
  case patternProperties => rw [readMapOrNull_written hpart hd.patternProperties]; rfl
  case additionalProperties => rw [readAdditionalOrNull_written hpart hd.additional]; rfl
  case isInstanceOf =>
    have hfirst : hosted = false := by
      cases hosted
      · rfl
      · exact absurd rfl (hhosted rfl)
    rw [hfirst, if_neg Bool.false_ne_true, readText_written hpart]
    rfl
  case value =>
    have hnull : value ≠ .null := fun hnull => hd.value (hnull ▸ hpart)
    have hkept : (if value.isNull then none else some value) = d.value := by
      rw [hpart]
      cases value with
      | null => exact absurd rfl hnull
      | _ => rfl
    rw [hkept]
  case enumChoices =>
    obtain ⟨choices, hchoices, rfl⟩ := Option.map_eq_some_iff.mp hpart
    have hback : (choices.map EnumChoice.toJson).map EnumChoice.ofJson = choices := by
      rw [List.map_map]
      conv => rhs; rw [← List.map_id choices]
      exact List.map_congr_left fun choice hchoice => hd.enumChoices choice (by rwa [hchoices])
    have hitems : (Json.array (choices.map EnumChoice.toJson)).orNull Json.readItems =
        .ok (some (choices.map EnumChoice.toJson)) := rfl
    rw [hitems, hchoices]
    exact congrArg (fun back => Except.ok { draft with enumChoices := some back }) hback

/-! ## Reading all parts -/

/-- Kept keys are kept again. -/
theorem readKeys_extra {hosted : Bool} {draft : Descriptor} {extra : Fields Json}
    (h : ∀ entry ∈ extra, Key.ofString? entry.1 = none) :
    readKeys hosted draft extra = .ok (draft.keeping extra) := by
  induction extra generalizing hosted draft with
  | nil =>
    cases draft
    simp only [readKeys, keeping, List.append_nil]
  | cons entry rest ih =>
    obtain ⟨hfirst, hrest⟩ := List.forall_mem_cons.mp h
    have hkey : readKey hosted draft entry = .ok (draft.keeping [entry]) := by
      unfold readKey
      simp only [hfirst]
      rfl
    rw [readKeys, hkey]
    refine (ih hrest).trans ?_
    simp only [keeping, List.append_assoc, List.singleton_append]

/-- The parts under some keys are read into a draft without them, each into its place. -/
theorem readKeys_parts {d draft : Descriptor} {keys : List Key} {hosted : Bool}
    (hd : IsRead ReadsBack d) (hkeys : keys.Nodup) (hdraft : ∀ key ∈ keys, draft.part? key = none)
    (hhosted : hosted = true → .isInstanceOf ∉ keys) (extra : Fields Json)
    (hextra : ∀ entry ∈ extra, Key.ofString? entry.1 = none) :
    readKeys hosted draft ((keys.flatMap fun key => field key (d.part? key)) ++ extra) =
      .ok ((keys.foldl d.withPart draft).keeping extra) := by
  induction keys generalizing draft hosted with
  | nil => exact readKeys_extra hextra
  | cons key keys ih =>
    obtain ⟨hfresh, hrest⟩ := List.nodup_cons.mp hkeys
    obtain ⟨hfirst, hothers⟩ := List.forall_mem_cons.mp hdraft
    rw [List.flatMap_cons, List.append_assoc, List.foldl_cons]
    cases hpart : d.part? key with
    | none =>
      rw [withPart_eq_self hpart hfirst]
      exact ih hrest hothers fun h hmem => hhosted h (List.mem_cons_of_mem key hmem)
    | some value =>
      have hkey := readKey_part draft hd hpart fun h hhost =>
        hhosted h (hhost ▸ List.mem_cons_self)
      rw [field, List.singleton_append, readKeys, hkey]
      refine ih hrest (fun other hother => ?_) fun h => ?_
      · have hne : other ≠ key := fun heq => hfresh (heq ▸ hother)
        rw [part?_withPart_of_ne hne]
        exact hothers other hother
      · -- the key of the host class does not come a second time
        rw [Key.ofString?_spelling, Bool.or_eq_true, beq_iff_eq] at h
        rcases h with h | h
        · exact fun hmem => hhosted h (List.mem_cons_of_mem key hmem)
        · cases h
          exact hfresh

theorem readsBack_of_isRead {d : Descriptor} (hd : IsRead ReadsBack d) : ReadsBack d := by
  have hempty : ∀ key ∈ Key.all, part? {} key = none := fun key _ => by cases key <;> rfl
  have hread := readKeys_parts hd (by decide : Key.all.Nodup) hempty
    (fun hosted : false = true => nomatch hosted) d.extra hd.extra
  rw [ReadsBack, toJson_eq, ofJson, hread, foldl_withPart_keeping]

/-- **What was read is written so that reading gives it back**, and no kept key, at any depth, is one with a meaning
of its own in either spelling. -/
theorem ofJson_toJson {json : Json} {d : Descriptor} (h : ofJson json = .ok d) :
    ofJson d.toJson = .ok d ∧
      ∀ e ∈ d.nodes, ∀ entry ∈ e.extra,
        entry.1 ≠ Key.instanceAlias ∧ ∀ key : Key, entry.1 ≠ key.spelling := by
  refine ⟨ofJson_induction (fun _ => readsBack_of_isRead) h, ?_⟩
  refine ofJson_induction (P := fun d => ∀ e ∈ d.nodes, ∀ entry ∈ e.extra,
    entry.1 ≠ Key.instanceAlias ∧ ∀ key : Key, entry.1 ≠ key.spelling) (fun d hd => ?_) h
  rw [nodes_eq]
  refine List.forall_mem_cons.mpr ⟨fun entry hentry => Key.ofString?_eq_none (hd.extra entry hentry), ?_⟩
  intro e he
  obtain ⟨child, hchild, he⟩ := List.mem_flatMap.mp he
  exact hd.forall_children child hchild e he

/-- A menu with a plain, a documented and an odd choice, the host class in its other spelling, an unknown key, and
properties named like keys. -/
theorem ofJson_toJson_menu : ∃ d, ofJson (.object [
      ("minimum", .number (.integer 0)), ("instanceOf", .text "Menu"), ("type", .null),
      ("enum", .array [.text "a", .object [("description", .null), ("name", .text "b")],
        .object [("name", .bool true)]]),
      ("properties", .object [("type", .object [("async", .text "callback"), ("maximum", .null)]),
        ("instanceOf", .object [("additionalProperties", .object [("$ref", .text "Tab")])])]),
      ("additionalProperties", .bool false)]) = .ok d ∧ ofJson d.toJson = .ok d :=
  Exists.imp (fun _ hd => ⟨hd, (ofJson_toJson hd).1⟩) (exists_ok_of_isSome (by decide +kernel))

end SchemaTypings.Descriptor
