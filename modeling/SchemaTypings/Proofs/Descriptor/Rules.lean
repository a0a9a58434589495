import Mathlib.Data.List.Find
import SchemaTypings.Proofs.Descriptor.Roundtrip

/-!
# The first rule that fits

Most descriptors are settled without a look at the table of overrides. For a descriptor that was read the
answer is still that of the table: what the first rule does whose every key stands, with an equal value, in
the JSON of the descriptor.

* `OverrideRule.Decides`: a rule fits, and none before it does.
* `field?_part`, `field?_kept`: what is found in the JSON of a descriptor.
* `override?_eq_scan`: the answer without a look at the table is the same.
* `override?_table`: the answer, what it depends on, and what overriding leaves alone.
-/

namespace SchemaTypings

theorem Key.spelling_injective {first second : Key} (h : first.spelling = second.spelling) :
    first = second := by
  have hkeys := congrArg ofString? h
  rw [ofString?_spelling, ofString?_spelling] at hkeys
  exact Option.some.inj hkeys

theorem Fields.find?_eq_none_of_forall_ne {α : Type} {key : String} {fields : Fields α}
    (h : ∀ entry ∈ fields, entry.1 ≠ key) : find? key fields = none := by
  induction fields with
  | nil => rfl
  | cons entry rest ih =>
    obtain ⟨hfirst, hrest⟩ := List.forall_mem_cons.mp h
    rw [find?, if_neg hfirst, ih hrest]

/-! ## Rules -/

namespace Json

/-- A value without parts. -/
def IsPlain : Json → Prop
  | .text _ | .bool _ => True
  | _ => False

theorem beq_iff_of_isPlain {found expected : Json} (h : expected.IsPlain) :
    (found == expected) = true ↔ found = expected := by
  change same found expected = true ↔ found = expected
  cases expected with
  | text | bool => cases found <;> simp [same]
  | _ => exact h.elim

end Json

namespace OverrideRule

/-- Every key of the pattern is in the object, with an equal value. -/
def Fits (rule : OverrideRule) (json : Json) : Prop :=
  ∀ entry ∈ rule.pattern, json.field? entry.1 = some entry.2

/-- The rule is the first one of the table that fits. -/
def Decides (rule : OverrideRule) (json : Json) : Prop :=
  rule.Fits json ∧ ∃ before after, Descriptor.overrideRules = before ++ rule :: after ∧
    ∀ other ∈ before, ¬other.Fits json

/-- The patterns of the table hold plain values only. -/
theorem isPlain_of_mem {rule : OverrideRule} (h : rule ∈ Descriptor.overrideRules) :
    ∀ entry ∈ rule.pattern, entry.2.IsPlain := by
  simp only [Descriptor.overrideRules, List.mem_cons, List.not_mem_nil, or_false] at h
  rcases h with rfl | rfl | rfl <;> simp [Json.IsPlain]

theorem applies_iff {rule : OverrideRule} (h : rule ∈ Descriptor.overrideRules)
    (fields : Fields Json) : rule.applies fields = true ↔ rule.Fits (.object fields) := by
  unfold applies Fits
  rw [List.all_eq_true]
  refine forall₂_congr fun entry hentry => ?_
  change (Fields.find? entry.1 fields == some entry.2) = true ↔
    Fields.find? entry.1 fields = some entry.2
  cases Fields.find? entry.1 fields with
  | none => exact iff_of_false Bool.false_ne_true nofun
  | some found =>
    rw [Option.some_beq_some, Json.beq_iff_of_isPlain (isPlain_of_mem h entry hentry),
      Option.some_inj]

end OverrideRule

namespace Descriptor

/-! ## Fields of the JSON -/

/-- No kept key has a meaning of its own. -/
def KeepsUnknown (d : Descriptor) : Prop := ∀ entry ∈ d.extra, Key.ofString? entry.1 = none

theorem keepsUnknown_of_read {json : Json} {d : Descriptor} (h : ofJson json = .ok d) :
    d.KeepsUnknown :=
  ofJson_induction (P := KeepsUnknown) (fun _ hd => hd.extra) h

variable {d e : Descriptor}

theorem find?_parts (d : Descriptor) (key : Key) (keys : List Key) :
    Fields.find? key.spelling (keys.flatMap fun k => field k (d.part? k)) =
      if key ∈ keys then d.part? key else none := by
  induction keys with
  | nil => rfl
  | cons k rest ih =>
    rw [List.flatMap_cons, Fields.find?_append, find?_field, ih]
    by_cases hk : k = key
    · rw [if_pos (congrArg _ hk), hk, if_pos List.mem_cons_self]
      cases d.part? key <;> simp
    · rw [if_neg (mt Key.spelling_injective hk), Option.none_or]
      have hmem : key ∈ k :: rest ↔ key ∈ rest := by
        rw [List.mem_cons]
        exact or_iff_right (Ne.symm hk)
      simp only [hmem]

/-- Under a key with a meaning of its own is the part of the descriptor that it stands for. -/
theorem field?_part (h : d.KeepsUnknown) (key : Key) : d.toJson.field? key.spelling = d.part? key := by
  have hextra : Fields.find? key.spelling d.extra = none := by
    refine Fields.find?_eq_none_of_forall_ne fun entry hentry heq => ?_
    have hknown := h entry hentry
    rw [heq, Key.ofString?_spelling] at hknown
    cases hknown
  rw [toJson_eq]
  change Fields.find? key.spelling _ = _
  rw [Fields.find?_append, find?_parts, if_pos (Key.mem_all key), hextra, Option.or_none]

theorem fst_of_mem_field {key : Key} {value : Option Json} {entry : String × Json}
    (h : entry ∈ field key value) : entry.1 = key.spelling := by
  cases value with
  | none => cases h
  | some value => rw [List.mem_singleton.mp h]

/-- Under any other key is what was kept. -/
theorem field?_kept (d : Descriptor) {key : String} (hkey : Key.ofString? key = none) :
    d.toJson.field? key = Fields.find? key d.extra := by
  have hparts : Fields.find? key (Key.all.flatMap fun k => field k (d.part? k)) = none := by
    refine Fields.find?_eq_none_of_forall_ne fun entry hentry heq => ?_
    obtain ⟨k, -, hentry⟩ := List.mem_flatMap.mp hentry
    rw [← heq, fst_of_mem_field hentry, Key.ofString?_spelling] at hkey
    cases hkey
  rw [toJson_eq]
  change Fields.find? key _ = _
  rw [Fields.find?_append, hparts, Option.none_or]

/-! ## The table -/

/-- What the first rule does that fits the JSON of a descriptor. -/
def scan (d : Descriptor) : Option OverrideAction :=
  (overrideRules.find? (·.applies (d.toJson.fields?.getD []))).map (·.action)

theorem applies_toJson_iff (d : Descriptor) {rule : OverrideRule} (h : rule ∈ overrideRules) :
    rule.applies (d.toJson.fields?.getD []) = true ↔ rule.Fits d.toJson := by
  rw [OverrideRule.applies_iff h, toJson_eq]
  rfl

theorem scan_eq_some_iff {action : OverrideAction} :
    d.scan = some action ↔ ∃ rule : OverrideRule, rule.Decides d.toJson ∧ rule.action = action := by
  unfold scan
  rw [Option.map_eq_some_iff]
  refine exists_congr fun rule => and_congr_left fun _ => ?_
  rw [List.find?_eq_some_iff_append]
  constructor
  · rintro ⟨hfits, before, after, hrules, hbefore⟩
    refine ⟨(applies_toJson_iff d (by simp [hrules])).mp hfits, before, after, hrules, ?_⟩
    intro other hother hfits
    have happlies := (applies_toJson_iff d (by simp [hrules, hother])).mpr hfits
    have hnot := hbefore other hother
    rw [happlies] at hnot
    cases hnot
  · rintro ⟨hfits, before, after, hrules, hbefore⟩
    refine ⟨(applies_toJson_iff d (by simp [hrules])).mpr hfits, before, after, hrules, ?_⟩
    intro other hother
    rw [Bool.not_eq_true', Bool.eq_false_iff]
    exact mt (applies_toJson_iff d (by simp [hrules, hother])).mp (hbefore other hother)

theorem scan_eq_none_iff : d.scan = none ↔ ∀ rule ∈ overrideRules, ¬rule.Fits d.toJson := by
  unfold scan
  rw [Option.map_eq_none_iff, List.find?_eq_none]
  exact forall₂_congr fun rule hrule => not_congr (applies_toJson_iff d hrule)

/-- An unsupported descriptor is skipped: one rule asks for nothing else, and the one before it skips too. -/
theorem scan_of_isUnsupported (h : d.KeepsUnknown) (hu : d.isUnsupported = true) :
    d.scan = some .skip := by
  have hfield : d.toJson.field? "unsupported" = some (.bool true) := by
    have hpart := field?_part h .unsupported
    rw [part?, beq_iff_eq.mp hu] at hpart
    exact hpart
  obtain ⟨first, rest, hrules, hskip⟩ : ∃ first rest, overrideRules =
      first :: ⟨[("unsupported", .bool true)], .skip⟩ :: rest ∧ first.action = .skip := ⟨_, _, rfl, rfl⟩
  have hfits : OverrideRule.Fits ⟨[("unsupported", .bool true)], .skip⟩ d.toJson :=
    List.forall_mem_singleton.mpr hfield
  rw [scan_eq_some_iff]
  by_cases hfirst : first.Fits d.toJson
  · exact ⟨first, ⟨hfirst, [], _, hrules, List.forall_mem_nil _⟩, hskip⟩
  · exact ⟨_, ⟨hfits, [first], rest, hrules, List.forall_mem_singleton.mpr hfirst⟩, rfl⟩

/-- A descriptor without id and name meets no rule but the one for unsupported descriptors. -/
theorem scan_of_nameless (h : d.KeepsUnknown) (hu : d.isUnsupported = false) (hid : d.id = none)
    (hname : d.name = none) : d.scan = none := by
  have hidField : d.toJson.field? "id" = none :=
    (field?_part h .id).trans (by rw [part?, hid, Option.map_none])
  have hnameField : d.toJson.field? "name" = none :=
    (field?_part h .name).trans (by rw [part?, hname, Option.map_none])
  have hunsupported : d.toJson.field? "unsupported" ≠ some (.bool true) := by
    intro hfield
    obtain ⟨on, hon, hbool⟩ := Option.map_eq_some_iff.mp ((field?_part h .unsupported).symm.trans hfield)
    cases hbool
    rw [isUnsupported, hon] at hu
    cases hu
  rw [scan_eq_none_iff]
  intro rule hrule hfits
  simp only [overrideRules, List.mem_cons, List.not_mem_nil, or_false] at hrule
  rcases hrule with rfl | rfl | rfl
  · have hnone := hidField.symm.trans (hfits ("id", .text "ImageData") (by simp))
    cases hnone
  · exact hunsupported (hfits ("unsupported", .bool true) (by simp))
  · have hnone := hnameField.symm.trans (hfits ("name", .text "onMessageExternal") (by simp))
    cases hnone

theorem override?_eq_scan (h : d.KeepsUnknown) : d.override? = d.scan := by
  unfold override?
  split
  next hu => exact (scan_of_isUnsupported h hu).symm
  next hu =>
    split
    next hnameless =>
      rw [Bool.and_eq_true, Option.isNone_iff_eq_none, Option.isNone_iff_eq_none] at hnameless
      exact (scan_of_nameless h (Bool.eq_false_iff.mpr hu) hnameless.1 hnameless.2).symm
    next => rfl

/-! ## What the answer depends on -/

/-- The keys that the table asks for have equal values. -/
structure SameMarks (d e : Descriptor) : Prop where
  id : d.id = e.id
  name : d.name = e.name
  typeName : d.typeName = e.typeName
  isInstanceOf : d.isInstanceOf = e.isInstanceOf
  unsupported : d.unsupported = e.unsupported
  postprocess : Fields.find? "postprocess" d.extra = Fields.find? "postprocess" e.extra

theorem SameMarks.fits_iff (h : d.SameMarks e) (hd : d.KeepsUnknown) (he : e.KeepsUnknown)
    {rule : OverrideRule} (hrule : rule ∈ overrideRules) :
    rule.Fits d.toJson ↔ rule.Fits e.toJson := by
  have hpart : ∀ key : Key, d.part? key = e.part? key →
      d.toJson.field? key.spelling = e.toJson.field? key.spelling := fun key hkey =>
    (field?_part hd key).trans (hkey.trans (field?_part he key).symm)
  have hid := hpart .id (congrArg (·.map Json.text) h.id)
  have hname := hpart .name (congrArg (·.map Json.text) h.name)
  have htype := hpart .type (congrArg (·.map Json.text) h.typeName)
  have hhost := hpart .isInstanceOf (congrArg (·.map Json.text) h.isInstanceOf)
  have hunsupported := hpart .unsupported (congrArg (·.map Json.bool) h.unsupported)
  have hpostprocess : d.toJson.field? "postprocess" = e.toJson.field? "postprocess" := by
    rw [field?_kept d (by decide), field?_kept e (by decide), h.postprocess]
  simp only [Key.spelling] at hid hname htype hhost hunsupported
  simp only [overrideRules, List.mem_cons, List.not_mem_nil, or_false] at hrule
  rcases hrule with rfl | rfl | rfl <;>
    simp only [OverrideRule.Fits, List.forall_mem_cons, hid, hname, htype, hhost, hunsupported,
      hpostprocess, List.not_mem_nil, false_implies]

theorem SameMarks.scan_eq (h : d.SameMarks e) (hd : d.KeepsUnknown) (he : e.KeepsUnknown) :
    d.scan = e.scan := by
  have hfind : overrideRules.find? (·.applies (d.toJson.fields?.getD [])) =
      overrideRules.find? (·.applies (e.toJson.fields?.getD [])) := by
    refine List.find?_congr fun rule hrule => ?_
    rw [Bool.eq_iff_iff, applies_toJson_iff d hrule, applies_toJson_iff e hrule]
    exact h.fits_iff hd he hrule
  rw [scan, scan, hfind]

/-! ## What stays -/

/-- Two descriptors under the same names, of the same kind, with parameters of the same names and marks. -/
structure SameOutline (d e : Descriptor) : Prop where
  id : e.id = d.id
  name : e.name = d.name
  kind : e.kind? = d.kind?
  number : e.params.length = d.params.length
  paramNames : e.params.map (·.name) = d.params.map (·.name)
  paramMarks : e.params.map (·.isOptional) = d.params.map (·.isOptional)

theorem asResponder_name (p : Descriptor) : p.asResponder.name = p.name := by
  unfold asResponder
  split <;> rfl

theorem asResponder_isOptional (p : Descriptor) : p.asResponder.isOptional = p.isOptional := by
  unfold asResponder
  split <;> rfl

theorem sameOutline_of_overridden (h : d.overridden? = some e) : d.SameOutline e := by
  rcases eq_of_overridden h with rfl | rfl
  · exact ⟨rfl, rfl, rfl, rfl, rfl, rfl⟩
  · refine ⟨rfl, rfl, kind?_of_overridden h, ?_, ?_, ?_⟩ <;> rw [params_reshapeResponders]
    · exact List.length_map _
    · rw [List.map_map]
      exact List.map_congr_left fun p _ => asResponder_name p
    · rw [List.map_map]
      exact List.map_congr_left fun p _ => asResponder_isOptional p

/-! ## Overrides of what was read -/

/-- How a descriptor that was read is overridden. -/
structure Overridable (d : Descriptor) : Prop where
  /-- The answer is what the first rule does that fits, -/
  some_iff : ∀ action, d.override? = some action ↔
    ∃ rule : OverrideRule, rule.Decides d.toJson ∧ rule.action = action
  /-- and there is none exactly where no rule fits. -/
  none_iff : d.override? = none ↔ ∀ rule ∈ overrideRules, ¬rule.Fits d.toJson
  /-- It depends on nothing but the keys that the table asks for. -/
  depends : ∀ other e, ofJson other = .ok e → d.SameMarks e → d.override? = e.override?
  /-- What stands in place of the descriptor has its names, its kind and its parameters. -/
  keeps : ∀ e, d.overridden? = some e → d.SameOutline e

/-- **What was read is overridden as the table says.** -/
theorem override?_table {json : Json} (h : ofJson json = .ok d) : d.Overridable := by
  have hd := keepsUnknown_of_read h
  have hscan := override?_eq_scan hd
  constructor
  case some_iff => exact fun action => hscan ▸ scan_eq_some_iff
  case none_iff => exact hscan ▸ scan_eq_none_iff
  case depends =>
    intro other e hother hmarks
    have he := keepsUnknown_of_read hother
    rw [hscan, override?_eq_scan he, hmarks.scan_eq hd he]
  case keeps => exact fun e => sameOutline_of_overridden

/-- Image data that is unsupported as well, and a listener of another extension that is not. -/
theorem override?_table_overlap :
    (∃ d, ofJson (.object [("type", .text "object"), ("unsupported", .bool true),
        ("instanceOf", .text "ImageData"), ("name", .text "onMessageExternal"),
        ("postprocess", .text "convertImageDataToURL"), ("id", .text "ImageData")]) = .ok d ∧
      d.Overridable) ∧
    ∃ d, ofJson (.object [("unsupported", .bool false), ("name", .text "onMessageExternal"),
        ("parameters", .array [.object [("optional", .bool true), ("name", .text "sendResponse")]]),
        ("type", .text "function")]) = .ok d ∧ d.Overridable :=
  ⟨Exists.imp (fun _ hd => ⟨hd, override?_table hd⟩) (exists_ok_of_isSome (by decide +kernel)),
    Exists.imp (fun _ hd => ⟨hd, override?_table hd⟩) (exists_ok_of_isSome (by decide +kernel))⟩

end Descriptor

end SchemaTypings
