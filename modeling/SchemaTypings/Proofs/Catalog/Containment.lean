import Mathlib.Data.List.Basic
import SchemaTypings.Catalog.Source
import SchemaTypings.Proofs.Catalog.Shape
import SchemaTypings.Proofs.Report.Reports

/-!
# Faulty entries are contained

A fragment given as data is merged as if its faulty entries were not there. Each of them is reported
once, and nothing else depends on them. The text of a file may be read by any reader of JSON.

* `RawFragment.decoded`, `RawFragment.entryFaults`: what is left of a fragment, and what is reported.
* `Json.pruned`: the data without its faulty entries.
* `Catalog.merge_containment`: merging one value, and merging the text of a file.
-/

namespace SchemaTypings

/-! ## Entries -/

/-- Whether the value can be read as a descriptor. -/
def Json.isDescriptor (value : Json) : Bool := (Descriptor.ofJson value).toOption.isSome

/-- The report of an entry that is no descriptor. -/
def Fragment.entryFault? (part : Section) (label : EntryLabel) (space file : String) (entry : Json) :
    Option Diagnostic :=
  match Descriptor.ofJson entry with
  | .ok _ => none
  | .error cause => some ⟨.error, some space, .invalidEntry part label file cause⟩

/-- The reports of a list section. -/
def Fragment.entryFaults (part : Section) (space file : String) (entries : List Json) : Diagnostics :=
  entries.zipIdx.filterMap fun (entry, index) =>
    entryFault? part (.ofEntry entry index) space file entry

/-- The reports of the properties. -/
def Fragment.propertyFaults (space file : String) (entries : Fields Json) : Diagnostics :=
  entries.filterMap fun (key, entry) => entryFault? .property (.named key) space file entry

namespace RawFragment

/-- The fragment made of the entries that are descriptors. -/
def decoded (raw : RawFragment) (space : String) : Fragment where
  space
  description := raw.description
  types := raw.types.filterMap fun entry => (Descriptor.ofJson entry).toOption
  functions := raw.functions.filterMap fun entry => (Descriptor.ofJson entry).toOption
  events := raw.events.filterMap fun entry => (Descriptor.ofJson entry).toOption
  properties := raw.properties.filterMap fun (key, entry) =>
    (Descriptor.ofJson entry).toOption.map (key, ·)
  permissions := raw.permissions

/-- The reports of all entries that are no descriptors, section by section. -/
def entryFaults (raw : RawFragment) (space file : String) : Diagnostics :=
  Fragment.entryFaults .type space file raw.types ++
    Fragment.entryFaults .function space file raw.functions ++
    Fragment.entryFaults .event space file raw.events ++
    Fragment.propertyFaults space file raw.properties

/-- The fragment without the entries that are no descriptors. -/
def pruned (raw : RawFragment) : RawFragment :=
  { raw with
    types := raw.types.filter Json.isDescriptor
    functions := raw.functions.filter Json.isDescriptor
    events := raw.events.filter Json.isDescriptor
    properties := raw.properties.filter fun entry => entry.2.isDescriptor }

end RawFragment

/-- A part of a fragment without the entries that are no descriptors. -/
def FragmentKey.prune (value : Json) : FragmentKey → Json
  | types | functions | events =>
    match value with
    | .array entries => .array (entries.filter Json.isDescriptor)
    | other => other
  | properties =>
    match value with
    | .object entries => .object (entries.filter fun entry => entry.2.isDescriptor)
    | other => other
  | space | description | permissions => value

/-- The elements of the list form without the entries that are no descriptors. -/
def FragmentKey.pruneElements : List FragmentKey → List Json → List Json
  | key :: keys, value :: rest => key.prune value :: pruneElements keys rest
  | _, rest => rest

/-- The data of a fragment without the entries that are no descriptors. -/
def Json.pruned : Json → Json
  | .object fields => .object (fields.map fun (name, value) =>
      (name, (FragmentKey.ofString? name).elim value fun key => key.prune value))
  | .array items => .array (FragmentKey.pruneElements FragmentKey.all items)
  | value => value

/-! ## Reading entries -/

namespace Fragment

variable (space file : String)

theorem value_readEntry (part : Section) (label : EntryLabel) (entry : Json) :
    (readEntry part label space file entry).value = (Descriptor.ofJson entry).toOption := by
  unfold readEntry
  cases Descriptor.ofJson entry <;> rfl

theorem diagnostics_readEntry (part : Section) (label : EntryLabel) (entry : Json) :
    (readEntry part label space file entry).diagnostics =
      (entryFault? part label space file entry).toList := by
  unfold readEntry entryFault?
  cases Descriptor.ofJson entry <;> rfl

theorem value_readEntries (part : Section) (entries : List Json) :
    (readEntries part space file entries).value =
      entries.filterMap fun entry => (Descriptor.ofJson entry).toOption := by
  rw [readEntries, Reporting.value_collect]
  have hfst : entries.zipIdx.map Prod.fst = entries := List.zipIdx_map_fst 0 entries
  conv => rhs; rw [← hfst, List.filterMap_map]
  exact List.filterMap_congr fun _ _ => value_readEntry space file part _ _

theorem diagnostics_readEntries (part : Section) (entries : List Json) :
    (readEntries part space file entries).diagnostics = entryFaults part space file entries := by
  rw [readEntries, Reporting.diagnostics_collect, entryFaults, List.filterMap_eq_flatMap_toList]
  exact List.flatMap_congr fun _ _ => diagnostics_readEntry space file part _ _

theorem value_readProperties (entries : Fields Json) :
    (readProperties space file entries).value =
      entries.filterMap fun (key, entry) => (Descriptor.ofJson entry).toOption.map (key, ·) := by
  rw [readProperties, Reporting.value_collect]
  refine List.filterMap_congr fun entry _ => ?_
  exact congrArg (Option.map _) (value_readEntry space file .property (.named entry.1) entry.2)

theorem diagnostics_readProperties (entries : Fields Json) :
    (readProperties space file entries).diagnostics = propertyFaults space file entries := by
  rw [readProperties, Reporting.diagnostics_collect, propertyFaults,
    List.filterMap_eq_flatMap_toList]
  refine List.flatMap_congr fun entry _ => ?_
  rw [Reporting.diagnostics_bind, Reporting.diagnostics_pure, List.append_nil]
  exact diagnostics_readEntry space file .property (.named entry.1) entry.2

theorem value_ofRaw (raw : RawFragment) : (ofRaw raw space file).value = raw.decoded space := by
  simp only [ofRaw, Reporting.value_bind, Reporting.value_pure, value_readEntries,
    value_readProperties, RawFragment.decoded]

theorem diagnostics_ofRaw (raw : RawFragment) :
    (ofRaw raw space file).diagnostics = raw.entryFaults space file := by
  simp only [ofRaw, Reporting.diagnostics_bind, Reporting.diagnostics_pure, List.append_nil,
    diagnostics_readEntries, diagnostics_readProperties, RawFragment.entryFaults,
    List.append_assoc]

end Fragment

/-! ## Removing faulty entries beforehand -/

namespace RawFragment

/-- What the entries that are no descriptors give is nothing. -/
theorem filterMap_filter_isDescriptor {α β : Type} (data : α → Json) {give : α → Option β}
    (h : ∀ entry, (data entry).isDescriptor = false → give entry = none) (entries : List α) :
    (entries.filter fun entry => (data entry).isDescriptor).filterMap give =
      entries.filterMap give := by
  rw [List.filterMap_filter]
  refine List.filterMap_congr fun entry _ => ?_
  split
  next => rfl
  next hno => exact (h entry (by simpa using hno)).symm

theorem toOption_of_not_isDescriptor {value : Json} (h : value.isDescriptor = false) :
    (Descriptor.ofJson value).toOption = none := by
  simpa [Json.isDescriptor] using h

theorem decoded_pruned (raw : RawFragment) (space : String) :
    raw.pruned.decoded space = raw.decoded space := by
  have hentries : ∀ entries : List Json, (entries.filter Json.isDescriptor).filterMap
      (fun entry => (Descriptor.ofJson entry).toOption) =
        entries.filterMap fun entry => (Descriptor.ofJson entry).toOption :=
    filterMap_filter_isDescriptor id fun _ => toOption_of_not_isDescriptor
  have hproperties : (raw.properties.filter fun entry => entry.2.isDescriptor).filterMap
      (fun (key, entry) => (Descriptor.ofJson entry).toOption.map (key, ·)) =
        raw.properties.filterMap fun (key, entry) =>
          (Descriptor.ofJson entry).toOption.map (key, ·) :=
    filterMap_filter_isDescriptor Prod.snd
      (fun entry hno => congrArg (Option.map _) (toOption_of_not_isDescriptor hno)) _
  simp only [decoded, pruned, hentries, hproperties]

/-- Reading a part and removing its faulty entries can be done in any order. -/
theorem readPart_pruned (raw : RawFragment) (key : FragmentKey) (value : Json) :
    raw.pruned.readPart key (key.prune value) = (raw.readPart key value).map pruned := by
  cases key with
  | space =>
    simp only [readPart, FragmentKey.prune]
    cases value.orNull Json.readText <;> rfl
  | description =>
    simp only [readPart, FragmentKey.prune]
    cases value.orNull Json.readText <;> rfl
  | permissions =>
    simp only [readPart, FragmentKey.prune]
    cases value.readItems with
    | error fault => rfl
    | ok items =>
      simp only [bind, Except.bind]
      cases items.mapM Json.readText <;> rfl
  | types => cases value <;> rfl
  | functions => cases value <;> rfl
  | events => cases value <;> rfl
  | properties => cases value <;> rfl

theorem readFields_pruned (raw : RawFragment) (fields : Fields Json) :
    raw.pruned.readFields (fields.map fun (name, value) =>
      (name, (FragmentKey.ofString? name).elim value fun key => key.prune value)) =
        (raw.readFields fields).map pruned := by
  induction fields generalizing raw with
  | nil => rfl
  | cons field rest ih =>
    obtain ⟨name, value⟩ := field
    rw [List.map_cons, readFields, readFields]
    cases hkey : FragmentKey.ofString? name with
    | none => exact ih raw
    | some key =>
      simp only [Option.elim_some, readPart_pruned]
      cases raw.readPart key value with
      | error fault => rfl
      | ok next => exact ih next

theorem readElements_pruned (count : Nat) (raw : RawFragment) (keys : List FragmentKey)
    (items : List Json) :
    readElements count raw.pruned keys (FragmentKey.pruneElements keys items) =
      (readElements count raw keys items).map pruned := by
  induction items generalizing raw keys with
  | nil =>
    cases keys with
    | nil => rfl
    | cons key keys =>
      simp only [FragmentKey.pruneElements, readElements]
      split <;> rfl
  | cons value rest ih =>
    cases keys with
    | nil => rfl
    | cons key keys =>
      simp only [FragmentKey.pruneElements, readElements, readPart_pruned]
      cases raw.readPart key value with
      | error fault => rfl
      | ok next => exact ih next keys

theorem length_pruneElements (keys : List FragmentKey) (items : List Json) :
    (FragmentKey.pruneElements keys items).length = items.length := by
  induction items generalizing keys with
  | nil => cases keys <;> rfl
  | cons value rest ih =>
    cases keys with
    | nil => rfl
    | cons key keys => simp only [FragmentKey.pruneElements, List.length_cons, ih]

/-- The same for a whole fragment, which keeps its outer shape. -/
theorem ofJson_pruned (value : Json) : ofJson value.pruned = (ofJson value).map pruned := by
  cases value with
  | object fields => exact readFields_pruned {} fields
  | array items =>
    simp only [Json.pruned, ofJson, length_pruneElements]
    exact readElements_pruned items.length {} FragmentKey.all items
  | _ => rfl

end RawFragment

/-! ## Merging one value -/

namespace Catalog

variable {catalog : Catalog} {value : Json} {file : String}

theorem addProperties_warns (space file : String) (known more : Fields Descriptor) :
    (NamespaceSchema.addProperties space file known more).Reports (·.severity = .warning) := by
  induction more generalizing known with
  | nil => exact Reporting.reports_pure _
  | cons entry rest ih =>
    rw [NamespaceSchema.addProperties]
    split
    · have hwarn : (Reporting.warn (some space) (.duplicateProperty entry.1 file)).Reports
          (·.severity = .warning) := Reporting.reports_warn rfl
      exact hwarn.bind (ih known)
    · exact ih _

theorem absorb_warns (name : String) (fragment : Fragment) (file : String)
    (namespaces : List NamespaceSchema) :
    (absorb name fragment file namespaces).Reports (·.severity = .warning) := by
  have hstep : ∀ schema : NamespaceSchema,
      (schema.absorb fragment file).Reports (·.severity = .warning) := fun schema =>
    (addProperties_warns schema.name file _ _).bind (Reporting.reports_pure _)
  induction namespaces with
  | nil =>
    exact (Reporting.reports_of_nil rfl).bind ((hstep _).bind (Reporting.reports_pure _))
  | cons schema rest ih =>
    rw [absorb]
    split
    · exact (Reporting.reports_of_nil rfl).bind ((hstep _).bind (Reporting.reports_pure _))
    · exact ih.bind (Reporting.reports_pure _)

theorem merge_warns {fragment : Fragment} {name : String} (h : fragment.space = some name)
    (catalog : Catalog) (file : String) :
    (catalog.merge fragment file).Reports (·.severity = .warning) := by
  unfold merge
  rw [h]
  exact (absorb_warns name fragment file _).bind (Reporting.reports_pure _)

theorem merge_accepts {fragment : Fragment} {name : String} (h : fragment.space = some name)
    (catalog : Catalog) (file : String) : (catalog.merge fragment file).value.2 = true := by
  unfold merge
  rw [h]
  rfl

/-- The data of a fragment that is accepted: it has the outer shape and names a namespace. -/
def Accepts (value : Json) (raw : RawFragment) (space : String) : Prop :=
  RawFragment.ofJson value = .ok raw ∧ raw.space = some space

theorem mergeValue_of_accepts {raw : RawFragment} {space : String} (h : Accepts value raw space)
    (catalog : Catalog) (file : String) :
    (catalog.mergeValue value file).value = (catalog.merge (raw.decoded space) file).value ∧
      (catalog.mergeValue value file).diagnostics =
        raw.entryFaults space file ++ (catalog.merge (raw.decoded space) file).diagnostics := by
  unfold mergeValue
  rw [h.1]
  dsimp only
  rw [h.2]
  dsimp only
  rw [Reporting.value_bind, Reporting.diagnostics_bind, Fragment.value_ofRaw,
    Fragment.diagnostics_ofRaw]
  exact ⟨rfl, rfl⟩

theorem mergeValue_of_not_accepts (h : ∀ raw space, ¬Accepts value raw space) (catalog : Catalog)
    (file : String) :
    (catalog.mergeValue value file).value = (catalog, false) ∧
      ∃ problem, (catalog.mergeValue value file).diagnostics = [⟨.error, none, problem⟩] := by
  unfold mergeValue
  cases hraw : RawFragment.ofJson value with
  | error cause => exact ⟨rfl, _, rfl⟩
  | ok raw =>
    cases hspace : raw.space with
    | none => simp [hspace]
    | some space => exact absurd ⟨hraw, hspace⟩ (h raw space)

theorem mergeValue_pruned (catalog : Catalog) (value : Json) (file : String) :
    (catalog.mergeValue value.pruned file).value = (catalog.mergeValue value file).value := by
  have hpruned := RawFragment.ofJson_pruned value
  cases hraw : RawFragment.ofJson value with
  | error cause =>
    rw [hraw] at hpruned
    simp only [mergeValue, hraw, hpruned, Except.map, Reporting.value_bind, Reporting.value_pure]
  | ok raw =>
    rw [hraw] at hpruned
    cases hspace : raw.space with
    | none =>
      have hspace' : raw.pruned.space = none := hspace
      simp only [mergeValue, hraw, hpruned, Except.map, hspace, hspace', Reporting.value_bind,
        Reporting.value_pure]
    | some space =>
      rw [(mergeValue_of_accepts ⟨hpruned, hspace⟩ catalog file).1,
        (mergeValue_of_accepts ⟨hraw, hspace⟩ catalog file).1, RawFragment.decoded_pruned]

/-- What merging a value comes to. -/
structure Contained (catalog : Catalog) (value : Json) (file : String) : Prop where
  /-- Only a wrong outer shape or a missing namespace makes a value rejected. -/
  rejected_iff : (catalog.mergeValue value file).value.2 = false ↔
    ¬value.IsFragment ∨ ∃ raw, RawFragment.ofJson value = .ok raw ∧ raw.space = none
  /-- A rejected value is reported once and changes nothing. -/
  rejected : (catalog.mergeValue value file).value.2 = false →
    (catalog.mergeValue value file).value.1 = catalog ∧
      ∃ problem, (catalog.mergeValue value file).diagnostics = [⟨.error, none, problem⟩]
  /-- Any other value is merged as the fragment of its descriptors; each other entry is an error. -/
  accepted : (catalog.mergeValue value file).value.2 = true → ∃ raw space,
    Accepts value raw space ∧
      (catalog.mergeValue value file).value = (catalog.merge (raw.decoded space) file).value ∧
      (catalog.mergeValue value file).diagnostics =
        raw.entryFaults space file ++ (catalog.merge (raw.decoded space) file).diagnostics ∧
      ∀ d ∈ (catalog.merge (raw.decoded space) file).diagnostics, d.severity = .warning
  /-- Without the other entries the data gives the same catalog. -/
  pruned : (catalog.mergeValue value.pruned file).value = (catalog.mergeValue value file).value

theorem mergeValue_contained (catalog : Catalog) (value : Json) (file : String) :
    catalog.Contained value file := by
  by_cases h : ∃ raw space, Accepts value raw space
  · obtain ⟨raw, space, h⟩ := h
    obtain ⟨hvalue, hdiagnostics⟩ := mergeValue_of_accepts h catalog file
    have htrue : (catalog.mergeValue value file).value.2 = true := by
      rw [hvalue]
      exact merge_accepts rfl catalog file
    have hshape : value.IsFragment := RawFragment.ofJson_isOk_iff.mp ⟨raw, h.1⟩
    refine ⟨?_, fun hfalse => absurd (htrue.symm.trans hfalse) nofun, fun _ => ?_,
      mergeValue_pruned catalog value file⟩
    · refine ⟨fun hfalse => absurd (htrue.symm.trans hfalse) nofun, ?_⟩
      rintro (hno | ⟨raw', hraw, hspace⟩)
      · exact absurd hshape hno
      · cases h.1.symm.trans hraw
        exact absurd (h.2.symm.trans hspace) nofun
    · exact ⟨raw, space, h, hvalue, hdiagnostics, merge_warns rfl catalog file⟩
  · have hno : ∀ raw space, ¬Accepts value raw space := fun raw space h' => h ⟨raw, space, h'⟩
    obtain ⟨hvalue, hdiagnostics⟩ := mergeValue_of_not_accepts hno catalog file
    have hfalse : (catalog.mergeValue value file).value.2 = false := congrArg Prod.snd hvalue
    refine ⟨⟨fun _ => ?_, fun _ => hfalse⟩, fun _ => ⟨congrArg Prod.fst hvalue, hdiagnostics⟩,
      fun htrue => absurd (hfalse.symm.trans htrue) nofun, mergeValue_pruned catalog value file⟩
    cases hraw : RawFragment.ofJson value with
    | error cause =>
      left
      intro hshape
      obtain ⟨raw, hok⟩ := RawFragment.ofJson_isOk_iff.mpr hshape
      cases hraw.symm.trans hok
    | ok raw =>
      right
      cases hspace : raw.space with
      | none => exact ⟨raw, rfl, hspace⟩
      | some space => exact absurd ⟨hraw, hspace⟩ (hno raw space)

/-! ## Merging a file -/

/-- Merge values one after another; the answers tell which of them were accepted. -/
def mergeEach (file : String) : Catalog → List Json → Reporting (Catalog × List Bool)
  | catalog, [] => pure (catalog, [])
  | catalog, value :: rest => do
    let (catalog, accepted) ← catalog.mergeValue value file
    let (catalog, others) ← mergeEach file catalog rest
    pure (catalog, accepted :: others)

theorem mergeValues_run (file : String) (catalog : Catalog) (fragments : List Json) :
    (mergeValues file catalog fragments).value =
        ((mergeEach file catalog fragments).value.1,
          (mergeEach file catalog fragments).value.2.count true) ∧
      (mergeValues file catalog fragments).diagnostics =
        (mergeEach file catalog fragments).diagnostics := by
  induction fragments generalizing catalog with
  | nil => exact ⟨rfl, rfl⟩
  | cons value rest ih =>
    obtain ⟨hvalue, hdiagnostics⟩ := ih (catalog.mergeValue value file).value.1
    simp only [mergeValues, mergeEach, Reporting.value_bind, Reporting.diagnostics_bind,
      Reporting.value_pure, Reporting.diagnostics_pure, hvalue, hdiagnostics]
    refine ⟨?_, trivial⟩
    cases (catalog.mergeValue value file).value.2 <;> simp

variable [JsonReader]

/-- What merging the text of a file comes to. -/
structure ContainedSource (catalog : Catalog) (source file : String) : Prop where
  /-- A text that holds no list is reported once and changes nothing. -/
  rejected : (∀ fragments,
      JsonReader.read (Text.stripLineComments source) ≠ .ok (.array fragments)) →
    (catalog.mergeSource source file).value = (catalog, 0) ∧
      ∃ problem, (catalog.mergeSource source file).diagnostics = [⟨.error, none, problem⟩]
  /-- The fragments of a list are merged one after another, and the accepted ones are counted. -/
  merged : ∀ fragments,
    JsonReader.read (Text.stripLineComments source) = .ok (.array fragments) →
      (catalog.mergeSource source file).value =
          ((mergeEach file catalog fragments).value.1,
            (mergeEach file catalog fragments).value.2.count true) ∧
        (catalog.mergeSource source file).diagnostics =
          (mergeEach file catalog fragments).diagnostics

theorem mergeSource_contained (catalog : Catalog) (source file : String) :
    catalog.ContainedSource source file where
  rejected := by
    intro h
    unfold mergeSource
    split
    next cause hparse => exact ⟨rfl, _, rfl⟩
    next fragments hparse => exact absurd hparse (h fragments)
    next => exact ⟨rfl, _, rfl⟩
  merged := by
    intro fragments h
    unfold mergeSource
    rw [h]
    exact mergeValues_run file catalog fragments

/-- **What cannot be read costs itself alone**: an entry, a fragment or a file. -/
theorem merge_containment (catalog : Catalog) (file : String) :
    (∀ value, catalog.Contained value file) ∧ ∀ source, catalog.ContainedSource source file :=
  ⟨fun value => mergeValue_contained catalog value file,
    fun source => mergeSource_contained catalog source file⟩

end Catalog

end SchemaTypings
