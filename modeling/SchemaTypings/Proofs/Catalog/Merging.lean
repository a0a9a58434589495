import SchemaTypings.Json.Parser
import SchemaTypings.Proofs.Catalog.Listing
import SchemaTypings.Proofs.Catalog.Loading
import SchemaTypings.Proofs.Files.Operations

/-!
# What a schema directory gives

Loading a directory merges the texts of its schema files one after another, in the order of the bytes of their names,
and then assembles the module. The first file that cannot be read ends it; a file that is no list of fragments adds
nothing but one error. Nothing else in the tree is looked at. All of this holds for any reader of JSON text.

* `mergeTexts`: the texts of files merged one after another.
* `Unreadable`: the reasons why a file cannot be read.
* `generateFromDirectory_listing`: what a directory gives, in terms of its listing.
-/

namespace SchemaTypings

namespace Catalog

/-! ## Texts -/

/-- The texts of files, by the names of the files, merged into a catalog one after another. -/
def mergeTexts [JsonReader] : Catalog → List (String × String) → Reporting Catalog
  | catalog, [] => pure catalog
  | catalog, text :: rest => do
    let merged ← catalog.mergeSource text.2 text.1
    mergeTexts merged.1 rest

/-- The files hold the texts, and their paths in the directory are not too long to be opened. -/
structure Hold (directory : String) (files : List (String × ByteArray)) (texts : List (String × String)) :
    Prop where
  contents : files = texts.map fun text => (text.1, text.2.toUTF8)
  opens : ∀ file ∈ files, (Path.join directory file.1).utf8ByteSize ≤ FileTree.pathLimit

/-- Why a file of a directory cannot be read. -/
inductive Unreadable (directory name : String) (contents : ByteArray) : LoadFault → Prop
  /-- Its path is too long to be opened. -/
  | tooLong (h : FileTree.pathLimit < (Path.join directory name).utf8ByteSize) :
      Unreadable directory name contents (.unreadable (Path.join directory name) .nameTooLong)
  /-- It is opened and holds no text. -/
  | notText (h : (Path.join directory name).utf8ByteSize ≤ FileTree.pathLimit)
      (hcontents : ∀ text : String, contents ≠ text.toUTF8) :
      Unreadable directory name contents (.notText (Path.join directory name))

variable {directory name : String} {contents : ByteArray} {texts : List (String × String)}
  {files : List (String × ByteArray)} {fault : LoadFault}

theorem fromUTF8?_toUTF8 (text : String) : String.fromUTF8? text.toUTF8 = some text :=
  dif_pos text.isValidUTF8

theorem toUTF8_of_fromUTF8? {text : String} (h : String.fromUTF8? contents = some text) :
    text.toUTF8 = contents := by
  unfold String.fromUTF8? at h
  split at h
  next => exact Option.some.inj h ▸ rfl
  next => cases h

theorem textOf_readFile (h : (Path.join directory name).utf8ByteSize ≤ FileTree.pathLimit) (text : String) :
    textOf directory (readFile directory (name, text.toUTF8)) = .ok text := by
  have hopen : readFile directory (name, text.toUTF8) = (name, .ok text.toUTF8) := by
    rw [readFile, FileTree.readIn, if_neg (Nat.not_lt.mpr h)]
  rw [hopen, textOf, fromUTF8?_toUTF8]

theorem Unreadable.textOf (h : Unreadable directory name contents fault) :
    Catalog.textOf directory (readFile directory (name, contents)) = .error fault := by
  cases h with
  | tooLong h =>
    rw [readFile, FileTree.readIn, if_pos h]
    rfl
  | notText h hcontents =>
    have hnone : String.fromUTF8? contents = none := by
      cases htext : String.fromUTF8? contents with
      | none => rfl
      | some text => exact absurd (toUTF8_of_fromUTF8? htext).symm (hcontents text)
    rw [readFile, FileTree.readIn, if_neg (Nat.not_lt.mpr h), Catalog.textOf, hnone]

theorem exists_text_or_unreadable (directory name : String) (contents : ByteArray) :
    ((Path.join directory name).utf8ByteSize ≤ FileTree.pathLimit ∧
        ∃ text : String, contents = text.toUTF8) ∨
      ∃ fault, Unreadable directory name contents fault := by
  rcases Nat.lt_or_ge FileTree.pathLimit (Path.join directory name).utf8ByteSize with h | h
  · exact .inr ⟨_, .tooLong h⟩
  · by_cases hcontents : ∃ text : String, contents = text.toUTF8
    · exact .inl ⟨h, hcontents⟩
    · exact .inr ⟨_, .notText h fun text heq => hcontents ⟨text, heq⟩⟩

theorem Hold.nil : Hold directory [] [] := ⟨rfl, List.forall_mem_nil _⟩

theorem Hold.cons {text : String} (hold : Hold directory files texts)
    (h : (Path.join directory name).utf8ByteSize ≤ FileTree.pathLimit) :
    Hold directory ((name, text.toUTF8) :: files) ((name, text) :: texts) where
  contents := by rw [hold.contents, List.map_cons]
  opens := List.forall_mem_cons.mpr ⟨h, hold.opens⟩

/-- The files are texts up to the first one that cannot be read. -/
theorem hold_or_unreadable (directory : String) (files : List (String × ByteArray)) :
    (∃ texts, Hold directory files texts) ∨
      ∃ before name contents behind texts fault, files = before ++ (name, contents) :: behind ∧
        Hold directory before texts ∧ Unreadable directory name contents fault := by
  induction files with
  | nil => exact .inl ⟨[], .nil⟩
  | cons file rest ih =>
    obtain ⟨name, contents⟩ := file
    rcases exists_text_or_unreadable directory name contents with ⟨hopens, text, rfl⟩ | ⟨fault, hfault⟩
    · rcases ih with ⟨texts, hold⟩ | ⟨before, other, bytes, behind, texts, fault, rfl, hold, hfault⟩
      · exact .inl ⟨(name, text) :: texts, hold.cons hopens⟩
      · exact .inr ⟨_ :: before, other, bytes, behind, (name, text) :: texts, fault, rfl,
          hold.cons hopens, hfault⟩
    · exact .inr ⟨[], name, contents, rest, [], fault, rfl, .nil, hfault⟩

/-! ## Merging -/

variable [JsonReader]

theorem mergeTexts_cons (catalog : Catalog) (name text : String) (rest : List (String × String)) :
    (mergeTexts catalog ((name, text) :: rest)).value =
        (mergeTexts (catalog.mergeSource text name).value.1 rest).value ∧
      (mergeTexts catalog ((name, text) :: rest)).diagnostics =
        (catalog.mergeSource text name).diagnostics ++
          (mergeTexts (catalog.mergeSource text name).value.1 rest).diagnostics := by
  rw [mergeTexts, Reporting.value_bind, Reporting.diagnostics_bind]
  exact ⟨rfl, rfl⟩

theorem mergeFiles_cons {file : NamedFile} {text : String} (h : textOf directory file = .ok text)
    (catalog : Catalog) (behind : List NamedFile) :
    (mergeFiles directory catalog (file :: behind)).run.value =
        (mergeFiles directory (catalog.mergeSource text file.1).value.1 behind).run.value ∧
      (mergeFiles directory catalog (file :: behind)).run.diagnostics =
        (catalog.mergeSource text file.1).diagnostics ++
          (mergeFiles directory (catalog.mergeSource text file.1).value.1 behind).run.diagnostics := by
  rw [mergeFiles, h]
  constructor
  · rw [Reporting.value_run_bind (Reporting.value_run_lift _)]
    exact Reporting.value_run_bind (Reporting.value_run_lift _)
  · refine (Reporting.diagnostics_run_bind (Reporting.value_run_lift _)).trans ?_
    rw [Reporting.diagnostics_run_lift]
    refine congrArg _ ((Reporting.diagnostics_run_bind (Reporting.value_run_lift _)).trans ?_)
    rw [Reporting.diagnostics_run_lift, Reporting.diagnostics_note, List.nil_append]

/-- Files that hold texts are merged as their texts are. -/
theorem mergeFiles_append (hold : Hold directory files texts) (catalog : Catalog) (behind : List NamedFile) :
    (mergeFiles directory catalog (files.map (readFile directory) ++ behind)).run.value =
        (mergeFiles directory (mergeTexts catalog texts).value behind).run.value ∧
      (mergeFiles directory catalog (files.map (readFile directory) ++ behind)).run.diagnostics =
        (mergeTexts catalog texts).diagnostics ++
          (mergeFiles directory (mergeTexts catalog texts).value behind).run.diagnostics := by
  obtain ⟨rfl, hopens⟩ := hold
  induction texts generalizing catalog with
  | nil => exact ⟨rfl, rfl⟩
  | cons text rest ih =>
    obtain ⟨name, text⟩ := text
    obtain ⟨hopen, hrest⟩ := List.forall_mem_cons.mp hopens
    obtain ⟨hvalue, hdiagnostics⟩ := ih (catalog.mergeSource text name).value.1 hrest
    obtain ⟨hfirst, hreported⟩ := mergeFiles_cons (textOf_readFile hopen text) catalog
      ((rest.map fun text => (text.1, text.2.toUTF8)).map (readFile directory) ++ behind)
    obtain ⟨hmerged, hadded⟩ := mergeTexts_cons catalog name text rest
    simp only [readFile] at hfirst hreported hvalue hdiagnostics
    rw [List.map_cons, List.map_cons, List.cons_append, hmerged, hadded, List.append_assoc]
    exact ⟨hfirst.trans hvalue, hreported.trans (congrArg _ hdiagnostics)⟩

/-- A text that is no list of fragments adds nothing but one error. -/
theorem mergeSource_malformed {text : String}
    (h : ∀ fragments, JsonReader.read (Text.stripLineComments text) ≠ .ok (.array fragments))
    (catalog : Catalog) (name : String) :
    (catalog.mergeSource text name).value = (catalog, 0) ∧
      ∃ problem, (catalog.mergeSource text name).diagnostics = [⟨.error, none, problem⟩] := by
  unfold mergeSource
  cases hread : JsonReader.read (Text.stripLineComments text) with
  | error cause => exact ⟨rfl, _, rfl⟩
  | ok json =>
    cases json with
    | array fragments => exact absurd hread (h fragments)
    | _ => exact ⟨rfl, _, rfl⟩

end Catalog

open Catalog

section

variable [JsonReader] {tree : FileTree} {directory : String} {entries : Fields FileNode}
  {texts : List (String × String)}

/-- What is merged and assembled is the listing. -/
theorem generateFromDirectory_eq (hentries : tree.entriesAt? directory = some entries) (options : Options) :
    (generateFromDirectory FileTree.access directory options tree).1 = (do
      let catalog ← mergeFiles directory .empty ((listing entries).map (readFile directory))
      (Reporting.note (.loadedCatalog (listing entries).length catalog.size directory) : Reporting PUnit)
      catalog.assemble options : Loading Module) := by
  have hdirectory : tree.isDirectory directory = true := by
    show (tree.entriesAt? directory).isSome = true
    rw [hentries, Option.isSome_some]
  show (do
    let catalog ← (loadDirectory FileTree.access directory tree).1
    let module ← catalog.assemble options
    pure module : Loading Module) = _
  rw [loadDirectory_eq, if_pos hdirectory, ofFiles, sortedFiles_regularFiles hentries, List.length_map]
  simp only [bind_assoc, pure_bind]

theorem generateFromDirectory_of_hold (hentries : tree.entriesAt? directory = some entries)
    (hold : Hold directory (listing entries) texts) (options : Options) :
    (generateFromDirectory FileTree.access directory options tree).1.run.value =
        .ok ((mergeTexts .empty texts).value.assemble options).value ∧
      (generateFromDirectory FileTree.access directory options tree).1.run.diagnostics =
        (mergeTexts .empty texts).diagnostics ++
          ((mergeTexts .empty texts).value.assemble options).diagnostics := by
  obtain ⟨hvalue, hdiagnostics⟩ := mergeFiles_append hold .empty []
  rw [List.append_nil] at hvalue hdiagnostics
  have hnothing : ∀ catalog, (mergeFiles directory catalog []).run.diagnostics = [] := fun _ => rfl
  rw [hnothing, List.append_nil] at hdiagnostics
  rw [generateFromDirectory_eq hentries]
  constructor
  · exact (Reporting.value_run_bind hvalue).trans ((Reporting.value_run_bind (Reporting.value_run_lift _)).trans
      (Reporting.value_run_lift _))
  · refine (Reporting.diagnostics_run_bind hvalue).trans (congr (congrArg _ hdiagnostics) ?_)
    refine (Reporting.diagnostics_run_bind (Reporting.value_run_lift _)).trans ?_
    rw [Reporting.diagnostics_run_lift, Reporting.diagnostics_note, List.nil_append]
    exact Reporting.diagnostics_run_lift _

theorem generateFromDirectory_of_unreadable (hentries : tree.entriesAt? directory = some entries)
    {before behind : List (String × ByteArray)} {name : String} {contents : ByteArray} {fault : LoadFault}
    (hfiles : listing entries = before ++ (name, contents) :: behind) (hold : Hold directory before texts)
    (hfault : Unreadable directory name contents fault) (options : Options) :
    (generateFromDirectory FileTree.access directory options tree).1.run.value = .error fault := by
  have hvalue := (mergeFiles_append hold .empty
    (readFile directory (name, contents) :: behind.map (readFile directory))).1
  rw [mergeFiles, hfault.textOf] at hvalue
  rw [generateFromDirectory_eq hentries, hfiles, List.map_append, List.map_cons]
  exact Reporting.value_run_bind_of_error hvalue

/-- **What a directory gives depends on its schema files alone.** In the order of the bytes of their names, the texts
of the files are merged into one catalog, whose module is then assembled, and what merging reports stands in front of
what assembling reports; or else the first file that cannot be read ends it. A text that is no list of fragments adds
nothing but one error. In any other tree whose directory has the same schema files the result is the same. -/
theorem generateFromDirectory_listing (hentries : tree.entriesAt? directory = some entries)
    (hnames : (Fields.keys entries).Nodup) (options : Options) :
    ∃ files, Lists entries files ∧
      ((∃ texts, Hold directory files texts ∧
          (generateFromDirectory FileTree.access directory options tree).1.run.value =
            .ok ((mergeTexts .empty texts).value.assemble options).value ∧
          (generateFromDirectory FileTree.access directory options tree).1.run.diagnostics =
            (mergeTexts .empty texts).diagnostics ++
              ((mergeTexts .empty texts).value.assemble options).diagnostics) ∨
        ∃ before name contents behind texts fault, files = before ++ (name, contents) :: behind ∧
          Hold directory before texts ∧ Unreadable directory name contents fault ∧
          (generateFromDirectory FileTree.access directory options tree).1.run.value = .error fault) ∧
      (∀ text,
        (∀ fragments, JsonReader.read (Text.stripLineComments text) ≠ .ok (.array fragments)) →
        ∀ (catalog : Catalog) name, (catalog.mergeSource text name).value = (catalog, 0) ∧
          ∃ problem, (catalog.mergeSource text name).diagnostics = [⟨.error, none, problem⟩]) ∧
      ∀ (tree' : FileTree) entries', tree'.entriesAt? directory = some entries' →
        (Fields.keys entries').Nodup →
        (∀ name contents, (∃ stem, stem ≠ "" ∧ name = stem ++ ".json") →
          (Fields.find? name entries = some (.file contents) ↔
            Fields.find? name entries' = some (.file contents))) →
        (generateFromDirectory FileTree.access directory options tree').1 =
          (generateFromDirectory FileTree.access directory options tree).1 := by
  refine ⟨listing entries, lists_listing hnames, ?_, fun _ => mergeSource_malformed, ?_⟩
  · rcases hold_or_unreadable directory (listing entries) with
      ⟨texts, hold⟩ | ⟨before, name, contents, behind, texts, fault, hfiles, hold, hfault⟩
    · exact .inl ⟨texts, hold, generateFromDirectory_of_hold hentries hold options⟩
    · exact .inr ⟨before, name, contents, behind, texts, fault, hfiles, hold, hfault,
        generateFromDirectory_of_unreadable hentries hfiles hold hfault options⟩
  · intro tree' entries' hentries' hnames' hsame
    have hlisting := (lists_listing hnames).unique (lists_listing hnames') hsame
    rw [generateFromDirectory_eq hentries, generateFromDirectory_eq hentries', hlisting]

end

/-- A directory, a link, an extension in capitals and a name with nothing before its extension change nothing. -/
theorem generateFromDirectory_listing_mixed :
    (generateFromDirectory FileTree.access "schemas" {}
        { root := .directory [("schemas", .directory [("tabs.json", .file "[]".toUTF8)])] }).1 =
      (generateFromDirectory FileTree.access "schemas" {}
        { root := .directory [("schemas", .directory [("old.json", .directory []),
          ("menus.json", .link "tabs.json"), ("tabs.json", .file "[]".toUTF8), ("menus.JSON", .file .empty),
          (".json", .file .empty)])] }).1 := by
  have hentries : FileTree.entriesAt? { root := .directory [("schemas", .directory [("old.json", .directory []),
      ("menus.json", .link "tabs.json"), ("tabs.json", .file "[]".toUTF8), ("menus.JSON", .file .empty),
      (".json", .file .empty)])] } "schemas" = some [("old.json", .directory []),
      ("menus.json", .link "tabs.json"), ("tabs.json", .file "[]".toUTF8), ("menus.JSON", .file .empty),
      (".json", .file .empty)] := rfl
  obtain ⟨files, -, -, -, hsame⟩ := generateFromDirectory_listing hentries (by decide) {}
  refine hsame _ _ rfl (by decide) fun name contents hname => ?_
  have hschema := isSchemaFile_iff.mpr hname
  have hcapitals : "menus.JSON" ≠ name := by
    rintro rfl
    exact absurd hschema (by decide)
  have hbare : ".json" ≠ name := by
    rintro rfl
    exact absurd hschema (by decide)
  by_cases htabs : "tabs.json" = name
  · subst htabs
    exact Iff.rfl
  · simp only [Fields.find?, if_neg htabs, if_neg hcapitals, if_neg hbare]
    split_ifs <;> simp

/-! ## Paths that are too long -/

/-- A way that stays where it is ends where it begins. -/
theorem FileTree.entriesAt?_idle {tree : FileTree} {entries : Fields FileNode} {path : String} (hpath : IsFollowed path)
    (hidle : ∀ segment ∈ Path.segments path, Path.isIdle segment = true)
    (hstart : tree.root.find? (tree.start path) = some (.directory entries)) :
    tree.entriesAt? path = some entries := by
  have hplace : tree.root.entryAt (tree.start path) = some .directory := by
    rw [FileNode.entryAt, hstart]
    rfl
  have hfollow : ∀ segments : List String, (∀ segment ∈ segments, Path.isIdle segment = true) →
      follow tree.root .find linkLimit (tree.start path) segments = .ok (.node (tree.start path)) := by
    intro segments hsegments
    induction segments with
    | nil => exact follow_nil
    | cons segment rest ih =>
      obtain ⟨hfirst, hrest⟩ := List.forall_mem_cons.mp hsegments
      rw [follow_stay hplace hfirst]
      exact ih hrest
  rw [entriesAt?, node?, followSegments_eq hpath, hfollow _ hidle]
  show (tree.root.find? (tree.start path)).bind FileNode.entries? = some entries
  rw [hstart]
  rfl

/-- The working directory, with separators behind it. -/
def windingPath (count : Nat) : String := String.ofList ('.' :: List.replicate count '/')

theorem utf8ByteSize_windingPath (count : Nat) : (windingPath count).utf8ByteSize = count + 1 := by
  have hseparators : String.utf8Len (List.replicate count '/') = count := by
    induction count with
    | zero => rfl
    | succ count ih =>
      rw [List.replicate_succ, String.utf8Len_cons, ih]
      rfl
  rw [windingPath, String.utf8ByteSize_ofList, String.utf8Len_cons, hseparators]
  rfl

theorem isIdle_of_mem_windingPath {count : Nat} :
    ∀ segment ∈ Path.segments (windingPath count), Path.isIdle segment = true := by
  have hparts : ∀ begun, String.ofList begun.reverse = "" ∨ String.ofList begun.reverse = "." →
      ∀ part ∈ Path.splitFrom '/' begun (List.replicate count '/'),
        String.ofList part = "" ∨ String.ofList part = "." := by
    induction count with
    | zero => exact fun begun hbegun => List.forall_mem_singleton.mpr hbegun
    | succ count ih =>
      intro begun hbegun
      rw [List.replicate_succ, Path.splitFrom, if_pos rfl]
      exact List.forall_mem_cons.mpr ⟨hbegun, ih [] (.inl rfl)⟩
  intro segment hsegment
  rw [Path.segments, Path.split, windingPath, String.toList_ofList, Path.splitFrom,
    if_neg (by decide)] at hsegment
  obtain ⟨part, hpart, rfl⟩ := List.mem_map.mp hsegment
  rcases hparts ['.'] (.inr rfl) part hpart with hempty | hdot
  · rw [hempty]
    rfl
  · rw [hdot]
    rfl

/-- A schema file can be text and yet not be read: the directory is found by a path of 4091 bytes, and the path of the
file in it has 4097. -/
theorem generateFromDirectory_windingPath :
    FileTree.entriesAt? { root := .directory [("a.json", .file "[]".toUTF8)] } (windingPath 4090) =
      some [("a.json", .file "[]".toUTF8)] ∧
    (generateFromDirectory FileTree.access (windingPath 4090) {}
        { root := .directory [("a.json", .file "[]".toUTF8)] }).1.run.value =
      .error (.unreadable (windingPath 4090 ++ "a.json") .nameTooLong) ∧
    (generateFromDirectory FileTree.access (windingPath 4090) {}
        { root := .directory [("a.json", .file "[]".toUTF8)] }).1.run.value ≠
      .ok ((mergeTexts .empty [("a.json", "[]")]).value.assemble {}).value := by
  have hsize := utf8ByteSize_windingPath 4090
  have hrelative : Path.isAbsolute (windingPath 4090) = false := by
    rw [Path.isAbsolute, windingPath, String.toList_ofList]
    rfl
  have hjoin : Path.join (windingPath 4090) "a.json" = windingPath 4090 ++ "a.json" := by
    have hends : Path.endsWithSeparator (windingPath 4090) = true := by
      rw [Path.endsWithSeparator, windingPath, String.toList_ofList, List.replicate_succ',
        ← List.cons_append, List.getLast?_concat]
      rfl
    rw [Path.join, if_pos hends]
  have hentries : FileTree.entriesAt? { root := .directory [("a.json", .file "[]".toUTF8)] }
      (windingPath 4090) = some [("a.json", .file "[]".toUTF8)] := by
    refine FileTree.entriesAt?_idle ⟨fun hempty => ?_, ?_⟩ isIdle_of_mem_windingPath ?_
    · rw [hempty] at hsize
      cases hsize
    · rw [hsize]
      decide
    · rw [FileTree.start, hrelative]
      rfl
  have hlisting : listing [("a.json", .file "[]".toUTF8)] = [] ++ ("a.json", "[]".toUTF8) :: [] := by
    have hfile : [("a.json", FileNode.file "[]".toUTF8)].filterMap schemaFile? =
        [("a.json", "[]".toUTF8)] := rfl
    rw [listing, hfile, List.mergeSort_singleton, List.nil_append]
  have hlong : FileTree.pathLimit < (Path.join (windingPath 4090) "a.json").utf8ByteSize := by
    rw [hjoin, String.utf8ByteSize_append, hsize]
    decide
  have herror := generateFromDirectory_of_unreadable hentries hlisting .nil (.tooLong hlong) {}
  rw [hjoin] at herror
  refine ⟨hentries, herror, fun hok => ?_⟩
  rw [herror] at hok
  cases hok

end SchemaTypings
