import Mathlib.Data.List.Nodup
import Mathlib.Data.List.TakeWhile
import SchemaTypings.Catalog.Directory
import SchemaTypings.Files.Tree
import SchemaTypings.Proofs.Text.ByteOrder

/-!
# The schema files of a directory

The schema files of a directory are its regular files whose names end with `.json` behind something else, in the order
of the bytes of their names. What else stands in the directory, and in which order, has no part in it.

* `Lists`: a list of files is the listing of a directory.
* `listing`, `lists_iff`: there is exactly one.
* `sortedFiles_regularFiles`: it is what is read when the directory is loaded.
-/

namespace SchemaTypings

/-- The entries of the directory that a path leads to. -/
def FileTree.entriesAt? (tree : FileTree) (path : String) : Option (Fields FileNode) :=
  (tree.node? path).bind FileNode.entries?

/-- A name stands before an entry with that name exactly if the entry is found under it. -/
theorem Fields.mem_iff_find? {α : Type} {fields : Fields α} (h : (Fields.keys fields).Nodup)
    {key : String} {value : α} : (key, value) ∈ fields ↔ Fields.find? key fields = some value := by
  induction fields with
  | nil => exact ⟨nofun, nofun⟩
  | cons field rest ih =>
    obtain ⟨k, old⟩ := field
    obtain ⟨hfresh, hrest⟩ := List.nodup_cons.mp h
    rw [List.mem_cons, ih hrest, Fields.find?]
    by_cases hkey : k = key
    · subst hkey
      have hnone : Fields.find? k rest = none := by
        have hhas : ¬Fields.has k rest = true := fun hhas => hfresh (Fields.has_iff.mp hhas)
        simpa [Fields.has] using hhas
      rw [if_pos rfl, hnone]
      constructor
      · rintro (heq | hno)
        · exact congrArg some (Prod.mk.inj heq).2.symm
        · cases hno
      · rintro ⟨⟩
        exact .inl rfl
    · rw [if_neg hkey]
      exact or_iff_right fun heq => hkey (Prod.mk.inj heq).1.symm

/-- The extension is what stands behind the last dot, if something stands before it. -/
theorem Path.extension?_eq_some {name extension : String} :
    Path.extension? name = some extension ↔
      ∃ stem, stem ≠ "" ∧ name = stem ++ "." ++ extension ∧ '.' ∉ extension.toList := by
  unfold Path.extension?
  dsimp only
  constructor
  · intro h
    split at h
    next => cases h
    next => cases h
    next dot before hbefore hdrop =>
      have hhead := List.head?_dropWhile_not (· ≠ '.') name.toList.reverse
      rw [hdrop] at hhead
      obtain rfl : dot = '.' := by simpa using hhead
      have hname := List.takeWhile_append_dropWhile (p := (· ≠ '.')) (l := name.toList.reverse)
      have htake : ∀ c ∈ name.toList.reverse.takeWhile (· ≠ '.'), c ≠ '.' := fun c hc => by
        simpa using List.mem_takeWhile_imp hc
      obtain rfl := Option.some.inj h
      refine ⟨String.ofList before.reverse, fun hempty => ?_, ?_, ?_⟩
      · have hnil : before = [] := by
          simpa using congrArg String.toList hempty
        exact hbefore hnil
      · rw [hdrop] at hname
        apply String.toList_injective
        simpa using congrArg List.reverse hname.symm
      · rw [String.toList_ofList, List.mem_reverse]
        exact fun hmem => htake '.' hmem rfl
  · rintro ⟨stem, hstem, rfl, hdot⟩
    have hreverse : (stem ++ "." ++ extension).toList.reverse =
        extension.toList.reverse ++ '.' :: stem.toList.reverse := by
      simp
    have hplain : ∀ c ∈ extension.toList.reverse, decide (c ≠ '.') = true := by
      intro c hc
      exact decide_eq_true fun heq => hdot (List.mem_reverse.mp (heq ▸ hc))
    have hempty : stem.toList.reverse ≠ [] := by simpa using hstem
    rw [hreverse, List.dropWhile_append_of_pos hplain, List.takeWhile_append_of_pos hplain,
      List.dropWhile_cons_of_neg (by simp), List.takeWhile_cons_of_neg (by simp), List.append_nil,
      List.reverse_reverse, String.ofList_toList]
    split
    next h => cases h
    next h => exact absurd (List.cons.inj h).2 hempty
    next => rfl

namespace Catalog

/-! ## Names of schema files -/

/-- The names of schema files end with `.json`, and something stands before it. -/
theorem isSchemaFile_iff {name : String} :
    isSchemaFile name = true ↔ ∃ stem, stem ≠ "" ∧ name = stem ++ ".json" := by
  rw [isSchemaFile, beq_iff_eq, Path.extension?_eq_some]
  refine exists_congr fun stem => and_congr_right fun _ => ?_
  rw [String.append_assoc]
  exact and_iff_left (by decide)

/-! ## Listings -/

/-- The files are the regular files of a directory whose names end with `.json` behind something else, in the order of
the bytes of their names. -/
structure Lists (entries : Fields FileNode) (files : List (String × ByteArray)) : Prop where
  mem_iff : ∀ name contents, (name, contents) ∈ files ↔
    Fields.find? name entries = some (.file contents) ∧ ∃ stem, stem ≠ "" ∧ name = stem ++ ".json"
  ordered : files.Pairwise fun a b => Text.bytes a.1 < Text.bytes b.1

variable {entries entries' : Fields FileNode} {files files' : List (String × ByteArray)}

/-- A directory has one listing, whatever else stands in it. -/
theorem Lists.unique (h : Lists entries files) (h' : Lists entries' files')
    (hsame : ∀ name contents, (∃ stem, stem ≠ "" ∧ name = stem ++ ".json") →
      (Fields.find? name entries = some (.file contents) ↔
        Fields.find? name entries' = some (.file contents))) : files = files' := by
  have hnodup : ∀ {entries files}, Lists entries files → files.Nodup := by
    intro entries files h
    refine h.ordered.imp fun {a b} hless heq => ?_
    rw [heq] at hless
    exact List.lt_irrefl _ hless
  have hperm : files.Perm files' := by
    refine (List.perm_ext_iff_of_nodup (hnodup h) (hnodup h')).mpr fun ⟨name, contents⟩ => ?_
    rw [h.mem_iff, h'.mem_iff]
    exact and_congr_left fun hname => hsame name contents hname
  exact hperm.eq_of_pairwise (fun _ _ _ _ hless hgreater => absurd hgreater (List.lt_asymm hless))
    h.ordered h'.ordered

/-- The schema file that an entry is. -/
def schemaFile? : String × FileNode → Option (String × ByteArray)
  | (name, .file contents) => if isSchemaFile name then some (name, contents) else none
  | _ => none

/-- The schema files of a directory. -/
def listing (entries : Fields FileNode) : List (String × ByteArray) :=
  (entries.filterMap schemaFile?).mergeSort fun a b => !decide (b.1 < a.1)

theorem schemaFile?_eq_some {entry : String × FileNode} {name : String} {contents : ByteArray} :
    schemaFile? entry = some (name, contents) ↔
      entry = (name, .file contents) ∧ isSchemaFile name = true := by
  obtain ⟨key, node⟩ := entry
  cases node with
  | file bytes =>
    rw [schemaFile?, Option.ite_none_right_eq_some]
    constructor
    · rintro ⟨hname, ⟨⟩⟩
      exact ⟨rfl, hname⟩
    · rintro ⟨⟨⟩, hname⟩
      exact ⟨hname, rfl⟩
  | _ => simp [schemaFile?]

theorem lists_listing (hnames : (Fields.keys entries).Nodup) : Lists entries (listing entries) where
  mem_iff := by
    intro name contents
    rw [listing, List.mem_mergeSort, List.mem_filterMap, ← isSchemaFile_iff,
      ← Fields.mem_iff_find? hnames]
    simp only [schemaFile?_eq_some]
    constructor
    · rintro ⟨_, hmem, rfl, hname⟩
      exact ⟨hmem, hname⟩
    · rintro ⟨hmem, hname⟩
      exact ⟨_, hmem, rfl, hname⟩
  ordered := by
    have hdistinct : (listing entries).Pairwise fun a b => a.1 ≠ b.1 := by
      refine (List.mergeSort_perm _ _).symm.pairwise ?_ Ne.symm
      refine List.pairwise_filterMap.mpr ((List.pairwise_map.mp hnames).imp fun hne a ha b hb heq => hne ?_)
      rw [(schemaFile?_eq_some.mp ha).1, (schemaFile?_eq_some.mp hb).1]
      exact heq
    have hle : ∀ a b : String × ByteArray, (!decide (b.1 < a.1)) = true ↔ a.1 ≤ b.1 := by
      intro a b
      rw [Bool.not_eq_true', decide_eq_false_iff_not, not_lt]
    have hsorted : (listing entries).Pairwise fun a b => !decide (b.1 < a.1) := by
      refine List.pairwise_mergeSort (fun a b c => ?_) (fun a b => ?_) _
      · rw [hle, hle, hle]
        exact le_trans
      · rw [Bool.or_eq_true, hle, hle]
        exact le_total _ _
    refine (hsorted.and hdistinct).imp fun {a b} ⟨hfirst, hne⟩ => ?_
    exact Text.bytes_lt_bytes_iff.mpr (lt_of_le_of_ne ((hle a b).mp hfirst) hne)

/-- A file as it is read in its directory. -/
def readFile (directory : String) (file : String × ByteArray) : NamedFile :=
  (file.1, FileTree.readIn directory file.1 file.2)

/-- What is read when a directory is loaded is its listing. -/
theorem sortedFiles_regularFiles {tree : FileTree} {directory : String}
    (h : tree.entriesAt? directory = some entries) :
    sortedFiles (tree.regularFiles directory isSchemaFile) =
      (listing entries).map (readFile directory) := by
  have hread : tree.regularFiles directory isSchemaFile =
      (entries.filterMap schemaFile?).map (readFile directory) := by
    rw [FileTree.entriesAt?] at h
    rw [FileTree.regularFiles, h, Option.getD_some, List.map_filterMap]
    refine List.filterMap_congr fun ⟨name, node⟩ _ => ?_
    cases node with
    | file contents =>
      show (if isSchemaFile name = true then _ else none) = _
      rw [schemaFile?]
      by_cases hname : isSchemaFile name = true
      · rw [if_pos hname, if_pos hname, Option.map_some, readFile]
      · rw [if_neg hname, if_neg hname, Option.map_none]
    | _ => rfl
  rw [hread, sortedFiles, listing, List.map_mergeSort]
  exact fun _ _ _ _ => rfl

end Catalog

end SchemaTypings
