import Mathlib.Data.List.Perm.Basic
import SchemaTypings.Proofs.Catalog.Properties

/-!
# Merging is grouping

`Catalog.merge` takes fragments one at a time. Here it is compared with a catalog read off all of them at
once: the fragments of one namespace are gathered, lists of entries are joined, and of descriptions,
files and definitions of a property the first one counts. What merging reports is told by each fragment
and those before it.

* `Catalog.mergeAll_grouping`: fragments merged one after another make the catalog of their groups, and
  the way in which namespaces take turns matters only to the order of namespaces and of reports.
-/

namespace SchemaTypings.Catalog

/-! ## The catalog of groups -/

/-- A fragment with the file it is from. -/
abbrev Source := Fragment × String

/-- The fragments of one namespace. -/
def ofSpace (name : String) (sources : List Source) : List Source :=
  sources.filter fun source => source.1.space == some name

/-- The fragments of no namespace. -/
def nameless (sources : List Source) : List Source :=
  sources.filter fun source => source.1.space == none

/-- The namespaces that fragments name, in the order of first appearance. -/
def spaces (sources : List Source) : List String := (sources.filterMap (·.1.space)).eraseDups

/-- A namespace read off all its fragments, of which there is at least one. -/
def gather (name : String) (group : List Source) : NamespaceSchema where
  name
  description := group.findSome? (·.1.description)
  types := group.flatMap (·.1.types)
  functions := group.flatMap (·.1.functions)
  events := group.flatMap (·.1.events)
  properties := Fields.firsts (group.flatMap (·.1.properties))
  permissions := group.flatMap (·.1.permissions)
  sourceFile := group.head?.elim "" Prod.snd

/-- The catalog read off all fragments. -/
def grouping (sources : List Source) : Catalog :=
  ⟨(spaces sources).map fun name => gather name (ofSpace name sources)⟩

/-- What is reported of a fragment behind those before it: that it names no namespace, or each property
that its namespace has already. -/
def reportsOf (earlier : List Source) : Source → Diagnostics
  | (fragment, file) =>
    match fragment.space with
    | none => [⟨.error, none, .noNamespace file⟩]
    | some name =>
      let known := Fields.keys ((ofSpace name earlier).flatMap (·.1.properties))
      (repeatedKeys known (Fields.keys fragment.properties)).map fun key =>
        ⟨.warning, some name, .duplicateProperty key file⟩

/-- What is reported of fragments, one after another, behind others. -/
def reportsFrom (earlier sources : List Source) : Diagnostics :=
  (withEarlier earlier sources).flatMap fun turn => reportsOf turn.1 turn.2

/-- Merge fragments one after another; the answers tell which of them were accepted. -/
def mergeAll (catalog : Catalog) : List Source → Reporting (Catalog × List Bool)
  | [] => pure (catalog, [])
  | (fragment, file) :: rest => do
    let (catalog, accepted) ← catalog.merge fragment file
    let (catalog, others) ← mergeAll catalog rest
    pure (catalog, accepted :: others)

/-! ## Merging one more fragment -/

/-- The namespace that a fragment from this file is added to: the one gathered so far, or a new one. -/
def opened (name file : String) (group : List Source) : NamespaceSchema :=
  { gather name group with sourceFile := group.head?.elim file Prod.snd }

theorem opened_of_ne_nil (name file : String) {group : List Source} (h : group ≠ []) :
    opened name file group = gather name group := by
  obtain ⟨source, rest, rfl⟩ := List.exists_cons_of_ne_nil h
  rfl

theorem value_absorb_opened (name file : String) (group : List Source) (fragment : Fragment) :
    ((opened name file group).absorb fragment file).value =
      gather name (group ++ [(fragment, file)]) := by
  have happend : ∀ {β : Type} (entries : Fragment → List β),
      group.flatMap (entries ·.1) ++ entries fragment =
        (group ++ [(fragment, file)]).flatMap (entries ·.1) := by
    intro β entries
    rw [List.flatMap_append, List.flatMap_singleton]
  have hdescription : (group.findSome? (·.1.description) <|> fragment.description) =
      (group ++ [(fragment, file)]).findSome? (·.1.description) := by
    rw [List.findSome?_append, List.findSome?_singleton]
    cases group.findSome? (·.1.description) with
    | none => rfl
    | some description => rfl
  have hproperties : (NamespaceSchema.addProperties name file
      (Fields.firsts (group.flatMap (·.1.properties))) fragment.properties).value =
        Fields.firsts ((group ++ [(fragment, file)]).flatMap (·.1.properties)) := by
    rw [NamespaceSchema.value_addProperties, happend Fragment.properties]
  have hfile : group.head?.elim file Prod.snd =
      (group ++ [(fragment, file)]).head?.elim "" Prod.snd := by
    cases group with
    | nil => rfl
    | cons source rest => rfl
  rw [NamespaceSchema.absorb, Reporting.value_bind, Reporting.value_pure]
  exact (NamespaceSchema.mk.injEq ..).mpr ⟨rfl, hdescription, happend _, happend _, happend _,
    hproperties, happend _, hfile⟩

theorem diagnostics_absorb_opened (name file : String) (group : List Source) (fragment : Fragment) :
    ((opened name file group).absorb fragment file).diagnostics =
      (repeatedKeys (Fields.keys (group.flatMap (·.1.properties)))
          (Fields.keys fragment.properties)).map
        fun key => ⟨.warning, some name, .duplicateProperty key file⟩ := by
  rw [NamespaceSchema.absorb, Reporting.diagnostics_bind, Reporting.diagnostics_pure, List.append_nil]
  exact NamespaceSchema.diagnostics_addProperties name file _ fragment.properties

theorem absorb_cons_of_ne {name : String} (fragment : Fragment) (file : String)
    {schema : NamespaceSchema} (h : schema.name ≠ name) (rest : List NamespaceSchema) :
    absorb name fragment file (schema :: rest) = (schema :: ·) <$> absorb name fragment file rest := by
  rw [absorb, if_neg h]
  rfl

section Absorb

variable {group : String → NamespaceSchema} (hname : ∀ n, (group n).name = n) {name : String}
  (fragment : Fragment) (file : String) {names : List String}

include hname

theorem absorb_of_not_mem (h : name ∉ names) :
    (absorb name fragment file (names.map group)).value =
        names.map group ++
          [(NamespaceSchema.absorb { name, sourceFile := file } fragment file).value] ∧
      (absorb name fragment file (names.map group)).diagnostics =
        (NamespaceSchema.absorb { name, sourceFile := file } fragment file).diagnostics := by
  induction names with
  | nil => exact ⟨rfl, by simp [absorb]⟩
  | cons n names ih =>
    rw [List.mem_cons, not_or] at h
    obtain ⟨hvalue, hdiagnostics⟩ := ih h.2
    have hne : (group n).name ≠ name := by
      rw [hname]
      exact Ne.symm h.1
    rw [List.map_cons, absorb_cons_of_ne fragment file hne, Reporting.value_map,
      Reporting.diagnostics_map, hvalue]
    exact ⟨rfl, hdiagnostics⟩

theorem absorb_of_mem (hnodup : names.Nodup) (h : name ∈ names) :
    (absorb name fragment file (names.map group)).value =
        names.map (fun n =>
          if n = name then ((group name).absorb fragment file).value else group n) ∧
      (absorb name fragment file (names.map group)).diagnostics =
        ((group name).absorb fragment file).diagnostics := by
  induction names with
  | nil => exact absurd h List.not_mem_nil
  | cons n names ih =>
    rw [List.nodup_cons] at hnodup
    by_cases hn : n = name
    · subst hn
      have hothers : names.map (fun m =>
          if m = n then ((group n).absorb fragment file).value else group m) = names.map group := by
        apply List.map_congr_left
        intro m hm
        have hne : m ≠ n := fun heq => hnodup.1 (heq ▸ hm)
        exact if_neg hne
      rw [List.map_cons, List.map_cons, if_pos rfl, hothers, absorb, if_pos (hname n)]
      exact ⟨rfl, by simp⟩
    · obtain ⟨hvalue, hdiagnostics⟩ := ih hnodup.2 ((List.mem_cons.mp h).resolve_left (Ne.symm hn))
      have hne : (group n).name ≠ name := by
        rw [hname]
        exact hn
      rw [List.map_cons, absorb_cons_of_ne fragment file hne, Reporting.value_map,
        Reporting.diagnostics_map, hvalue, List.map_cons, if_neg hn]
      exact ⟨rfl, hdiagnostics⟩

end Absorb

/-! ### The groups with one more fragment -/

theorem ofSpace_concat_self {name : String} {source : Source} (h : source.1.space = some name)
    (earlier : List Source) : ofSpace name (earlier ++ [source]) = ofSpace name earlier ++ [source] := by
  have hown : (source.1.space == some name) = true := beq_iff_eq.mpr h
  rw [ofSpace, List.filter_append,
    List.filter_cons_of_pos (p := fun source : Source => source.1.space == some name) hown]
  rfl

theorem ofSpace_concat_of_ne {name : String} {source : Source} (h : source.1.space ≠ some name)
    (earlier : List Source) : ofSpace name (earlier ++ [source]) = ofSpace name earlier := by
  have hother : ¬(source.1.space == some name) = true := mt beq_iff_eq.mp h
  rw [ofSpace, List.filter_append,
    List.filter_cons_of_neg (p := fun source : Source => source.1.space == some name) hother]
  exact List.append_nil _

theorem nodup_spaces (sources : List Source) : (spaces sources).Nodup := nodup_eraseDups _

theorem mem_spaces {name : String} {sources : List Source} :
    name ∈ spaces sources ↔ ∃ source ∈ sources, source.1.space = some name := by
  rw [spaces, List.mem_eraseDups, List.mem_filterMap]

theorem ofSpace_eq_nil {name : String} {sources : List Source} (h : name ∉ spaces sources) :
    ofSpace name sources = [] := by
  rw [ofSpace, List.filter_eq_nil_iff]
  intro source hsource hspace
  exact h (mem_spaces.mpr ⟨source, hsource, beq_iff_eq.mp hspace⟩)

theorem ofSpace_ne_nil {name : String} {sources : List Source} (h : name ∈ spaces sources) :
    ofSpace name sources ≠ [] := by
  obtain ⟨source, hsource, hspace⟩ := mem_spaces.mp h
  exact List.ne_nil_of_mem (List.mem_filter.mpr ⟨hsource, beq_iff_eq.mpr hspace⟩)

theorem spaces_concat_none {source : Source} (h : source.1.space = none) (earlier : List Source) :
    spaces (earlier ++ [source]) = spaces earlier := by
  rw [spaces, List.filterMap_append,
    List.filterMap_cons_none (f := fun source : Source => source.1.space) h]
  exact congrArg List.eraseDups (List.append_nil _)

theorem spaces_concat_some {name : String} {source : Source} (h : source.1.space = some name)
    (earlier : List Source) :
    spaces (earlier ++ [source]) =
      if name ∈ spaces earlier then spaces earlier else spaces earlier ++ [name] := by
  rw [spaces, List.filterMap_append,
    List.filterMap_cons_some (f := fun source : Source => source.1.space) h, List.filterMap_nil,
    eraseDups_concat]
  exact if_congr List.mem_eraseDups.symm rfl rfl

/-- A fragment without a namespace is turned down with one error. -/
theorem merge_nameless {fragment : Fragment} (h : fragment.space = none) (catalog : Catalog)
    (file : String) :
    (catalog.merge fragment file).value = (catalog, false) ∧
      (catalog.merge fragment file).diagnostics = [⟨.error, none, .noNamespace file⟩] := by
  rw [merge, h]
  exact ⟨rfl, rfl⟩

theorem merge_named {fragment : Fragment} {name : String} (h : fragment.space = some name)
    (catalog : Catalog) (file : String) :
    (catalog.merge fragment file).value =
        (⟨(absorb name fragment file catalog.namespaces).value⟩, true) ∧
      (catalog.merge fragment file).diagnostics =
        (absorb name fragment file catalog.namespaces).diagnostics := by
  rw [merge, h]
  exact ⟨rfl, by simp⟩

/-- A fragment goes to the group of its namespace. -/
theorem absorb_grouping {fragment : Fragment} {name : String} (h : fragment.space = some name)
    (earlier : List Source) (file : String) :
    (absorb name fragment file (grouping earlier).namespaces).value =
        (grouping (earlier ++ [(fragment, file)])).namespaces ∧
      (absorb name fragment file (grouping earlier).namespaces).diagnostics =
        ((opened name file (ofSpace name earlier)).absorb fragment file).diagnostics := by
  have hadded : gather name (ofSpace name (earlier ++ [(fragment, file)])) =
      ((opened name file (ofSpace name earlier)).absorb fragment file).value := by
    rw [ofSpace_concat_self h, value_absorb_opened]
  have hothers : ∀ n, n ≠ name →
      gather n (ofSpace n (earlier ++ [(fragment, file)])) = gather n (ofSpace n earlier) := by
    intro n hne
    have hspace : fragment.space ≠ some n := fun heq => hne (Option.some.inj (heq.symm.trans h))
    rw [ofSpace_concat_of_ne hspace]
  have hname : ∀ n, (gather n (ofSpace n earlier)).name = n := fun n => rfl
  have hsource : ((fragment, file) : Source).1.space = some name := h
  have hspaces := spaces_concat_some hsource earlier
  by_cases hmem : name ∈ spaces earlier
  · rw [if_pos hmem] at hspaces
    obtain ⟨hvalue, hdiagnostics⟩ := absorb_of_mem hname fragment file (nodup_spaces earlier) hmem
    rw [← opened_of_ne_nil name file (ofSpace_ne_nil hmem)] at hvalue hdiagnostics
    refine ⟨hvalue.trans ?_, hdiagnostics⟩
    rw [grouping, hspaces]
    apply List.map_congr_left
    intro n _
    split
    · rename_i heq
      rw [heq, hadded]
    · rename_i hne
      rw [hothers n hne]
  · rw [if_neg hmem] at hspaces
    obtain ⟨hvalue, hdiagnostics⟩ := absorb_of_not_mem hname fragment file hmem
    have hnew : opened name file (ofSpace name earlier) = { name, sourceFile := file } := by
      rw [ofSpace_eq_nil hmem]
      rfl
    rw [← hnew] at hvalue hdiagnostics
    refine ⟨hvalue.trans ?_, hdiagnostics⟩
    rw [grouping, hspaces, List.map_append, List.map_singleton, hadded]
    congr 1
    apply List.map_congr_left
    intro n hn
    exact (hothers n fun heq => hmem (heq ▸ hn)).symm

/-- Merging one more fragment into the catalog of the groups makes that of the groups with it. -/
theorem merge_grouping (earlier : List Source) (source : Source) :
    ((grouping earlier).merge source.1 source.2).value =
        (grouping (earlier ++ [source]), source.1.space.isSome) ∧
      ((grouping earlier).merge source.1 source.2).diagnostics = reportsOf earlier source := by
  obtain ⟨fragment, file⟩ := source
  cases hspace : fragment.space with
  | none =>
    have hsource : ((fragment, file) : Source).1.space = none := hspace
    have hspaces := spaces_concat_none hsource earlier
    have hofSpace : ∀ name, ofSpace name (earlier ++ [(fragment, file)]) = ofSpace name earlier := by
      intro name
      apply ofSpace_concat_of_ne
      rw [hspace]
      exact Option.some_ne_none name |>.symm
    have hsame : grouping (earlier ++ [(fragment, file)]) = grouping earlier := by
      rw [grouping, hspaces]
      simp only [hofSpace]
      rfl
    rw [hsame, reportsOf, hspace]
    exact merge_nameless hspace _ file
  | some name =>
    obtain ⟨hvalue, hdiagnostics⟩ := merge_named hspace (grouping earlier) file
    obtain ⟨hgroups, hreports⟩ := absorb_grouping hspace earlier file
    constructor
    · rw [hvalue, hgroups]
      rfl
    · rw [hdiagnostics, hreports, diagnostics_absorb_opened, reportsOf, hspace]

/-! ## Runs -/

theorem mergeAll_run (earlier sources : List Source) :
    ((grouping earlier).mergeAll sources).value =
        (grouping (earlier ++ sources), sources.map fun source => source.1.space.isSome) ∧
      ((grouping earlier).mergeAll sources).diagnostics = reportsFrom earlier sources := by
  induction sources generalizing earlier with
  | nil =>
    rw [List.append_nil]
    exact ⟨rfl, rfl⟩
  | cons source sources ih =>
    obtain ⟨hvalue, hdiagnostics⟩ := merge_grouping earlier source
    obtain ⟨hrest, hreports⟩ := ih (earlier ++ [source])
    rw [mergeAll, List.append_cons]
    constructor
    · simp only [Reporting.value_bind, Reporting.value_pure, hvalue, hrest, List.map_cons]
    · simp only [Reporting.diagnostics_bind, Reporting.diagnostics_pure, hvalue, hdiagnostics,
        hreports, List.append_nil, reportsFrom, withEarlier, List.flatMap_cons]

/-! ## Other orders of the namespaces -/

/-- What is reported of a fragment is in the name of its namespace. -/
theorem space_of_mem_reportsOf {earlier : List Source} {source : Source} {x : Diagnostic}
    (h : x ∈ reportsOf earlier source) : x.space = source.1.space := by
  obtain ⟨fragment, file⟩ := source
  cases hspace : fragment.space with
  | none =>
    rw [reportsOf, hspace] at h
    rw [List.mem_singleton.mp h]
  | some name =>
    rw [reportsOf, hspace] at h
    obtain ⟨key, -, rfl⟩ := List.mem_map.mp h
    rfl

theorem filter_reportsOf_of_eq {space : Option String} {source : Source} (h : source.1.space = space)
    (earlier : List Source) :
    (reportsOf earlier source).filter (·.space == space) = reportsOf earlier source := by
  rw [List.filter_eq_self]
  intro x hx
  rw [space_of_mem_reportsOf hx]
  exact beq_iff_eq.mpr h

theorem filter_reportsOf_of_ne {space : Option String} {source : Source} (h : source.1.space ≠ space)
    (earlier : List Source) : (reportsOf earlier source).filter (·.space == space) = [] := by
  rw [List.filter_eq_nil_iff]
  intro x hx
  rw [space_of_mem_reportsOf hx]
  exact mt beq_iff_eq.mp h

theorem reportsFrom_cons (earlier : List Source) (source : Source) (sources : List Source) :
    reportsFrom earlier (source :: sources) =
      reportsOf earlier source ++ reportsFrom (earlier ++ [source]) sources := rfl

/-- Of the fragments before it, only those of its own namespace matter to what is reported of one. -/
theorem reportsOf_ofSpace {name : String} {source : Source} (h : source.1.space = some name)
    (earlier : List Source) : reportsOf (ofSpace name earlier) source = reportsOf earlier source := by
  obtain ⟨fragment, file⟩ := source
  have htwice : ofSpace name (ofSpace name earlier) = ofSpace name earlier := by
    rw [ofSpace, ofSpace, List.filter_filter]
    simp only [Bool.and_self]
  simp only at h
  simp only [reportsOf, h, htwice]

/-- What is reported in the name of a namespace is what is reported of its fragments alone. -/
theorem filter_reportsFrom_named (name : String) (earlier sources : List Source) :
    (reportsFrom earlier sources).filter (·.space == some name) =
      reportsFrom (ofSpace name earlier) (ofSpace name sources) := by
  induction sources generalizing earlier with
  | nil => rfl
  | cons source sources ih =>
    rw [reportsFrom_cons, List.filter_append, ih (earlier ++ [source])]
    by_cases h : source.1.space = some name
    · have hown : ofSpace name (source :: sources) = source :: ofSpace name sources :=
        List.filter_cons_of_pos (beq_iff_eq.mpr h)
      rw [filter_reportsOf_of_eq h, hown, ofSpace_concat_self h, reportsFrom_cons, reportsOf_ofSpace h]
    · have hother : ofSpace name (source :: sources) = ofSpace name sources :=
        List.filter_cons_of_neg (mt beq_iff_eq.mp h)
      rw [filter_reportsOf_of_ne h, hother, ofSpace_concat_of_ne h, List.nil_append]

theorem filter_reportsFrom_nameless (earlier sources : List Source) :
    (reportsFrom earlier sources).filter (·.space == none) =
      (nameless sources).map fun source => ⟨.error, none, .noNamespace source.2⟩ := by
  induction sources generalizing earlier with
  | nil => rfl
  | cons source sources ih =>
    rw [reportsFrom_cons, List.filter_append, ih (earlier ++ [source])]
    by_cases h : source.1.space = none
    · have hreports : reportsOf earlier source = [⟨.error, none, .noNamespace source.2⟩] := by
        obtain ⟨fragment, file⟩ := source
        simp only at h
        simp only [reportsOf, h]
      have hown : nameless (source :: sources) = source :: nameless sources :=
        List.filter_cons_of_pos (beq_iff_eq.mpr h)
      rw [filter_reportsOf_of_eq h, hreports, hown]
      rfl
    · have hother : nameless (source :: sources) = nameless sources :=
        List.filter_cons_of_neg (mt beq_iff_eq.mp h)
      rw [filter_reportsOf_of_ne h, hother, List.nil_append]

theorem perm_of_filter {α κ : Type} [BEq κ] [LawfulBEq κ] (tag : α → κ) {first second : List α}
    (h : ∀ k, (first.filter (tag · == k)).Perm (second.filter (tag · == k))) : first.Perm second := by
  classical
  rw [List.perm_iff_count]
  intro a
  have hcount : ∀ l : List α, (l.filter (tag · == tag a)).count a = l.count a :=
    fun l => List.count_filter (beq_self_eq_true (tag a))
  rw [← hcount first, ← hcount second, (h (tag a)).count_eq]

section Orders

variable {first second : List Source} (hperm : first.Perm second)
  (hgroups : ∀ name, ofSpace name first = ofSpace name second)

include hperm hgroups

theorem grouping_perm : (grouping first).namespaces.Perm (grouping second).namespaces := by
  have hspaces : (spaces first).Perm (spaces second) := by
    rw [List.perm_ext_iff_of_nodup (nodup_spaces first) (nodup_spaces second)]
    intro name
    simp only [mem_spaces, hperm.mem_iff]
  simp only [grouping, hgroups]
  exact hspaces.map _

theorem reportsFrom_perm : (reportsFrom [] first).Perm (reportsFrom [] second) := by
  apply perm_of_filter Diagnostic.space
  intro space
  cases space with
  | none =>
    rw [filter_reportsFrom_nameless, filter_reportsFrom_nameless]
    exact (hperm.filter _).map _
  | some name =>
    rw [filter_reportsFrom_named, filter_reportsFrom_named, hgroups]

end Orders

/-- **Merging is grouping.** Fragments merged one after another make the catalog read off all of them, and
what is reported is told by each fragment and those before it. A fragment without a namespace changes no
catalog, is turned down and is reported with one error. Where every namespace keeps the order of its
fragments, another order of all of them changes no more than the order of namespaces and of reports. -/
theorem mergeAll_grouping (sources : List Source) :
    (mergeAll empty sources).value =
        (grouping sources, sources.map fun source => source.1.space.isSome) ∧
      (mergeAll empty sources).diagnostics = reportsFrom [] sources ∧
      (∀ (catalog : Catalog) (fragment : Fragment) (file : String), fragment.space = none →
        (catalog.merge fragment file).value = (catalog, false) ∧
          (catalog.merge fragment file).diagnostics = [⟨.error, none, .noNamespace file⟩]) ∧
      ∀ others : List Source, sources.Perm others →
        (∀ name, ofSpace name sources = ofSpace name others) →
        (mergeAll empty sources).value.1.namespaces.Perm
            (mergeAll empty others).value.1.namespaces ∧
          (mergeAll empty sources).diagnostics.Perm (mergeAll empty others).diagnostics := by
  have hrun : ∀ sources, (mergeAll empty sources).value =
      (grouping sources, sources.map fun source => source.1.space.isSome) ∧
        (mergeAll empty sources).diagnostics = reportsFrom [] sources := mergeAll_run []
  refine ⟨(hrun sources).1, (hrun sources).2, fun catalog fragment file h => merge_nameless h catalog file,
    fun others hperm hgroups => ?_⟩
  rw [(hrun sources).1, (hrun sources).2, (hrun others).1, (hrun others).2]
  exact ⟨grouping_perm hperm hgroups, reportsFrom_perm hperm hgroups⟩

/-- Two namespaces that take turns, and the first fragments of theirs the other way round. -/
theorem mergeAll_interleaved :
    let tabs : Source := ({ space := some "tabs", properties := [("ID", {})] }, "tabs.json")
    let windows : Source := ({ space := some "windows" }, "windows.json")
    let more : Source := ({ space := some "tabs", properties := [("ID", {})] }, "more.json")
    (mergeAll empty [tabs, windows, more]).value.1.namespaces.Perm
        (mergeAll empty [windows, tabs, more]).value.1.namespaces ∧
      (mergeAll empty [tabs, windows, more]).diagnostics.Perm
        (mergeAll empty [windows, tabs, more]).diagnostics ∧
      (merge empty {} "untitled.json").value = (empty, false) := by
  intro tabs windows more
  have hgroups : ∀ name, ofSpace name [tabs, windows, more] = ofSpace name [windows, tabs, more] := by
    intro name
    by_cases h : name = "tabs"
    · subst h
      rfl
    · have htabs : ¬(tabs.1.space == some name) = true :=
        mt (fun heq => Option.some.inj (beq_iff_eq.mp heq)) (Ne.symm h)
      simp only [ofSpace, List.filter_cons, if_neg htabs]
  obtain ⟨-, -, hnameless, horder⟩ := mergeAll_grouping [tabs, windows, more]
  obtain ⟨hnamespaces, hdiagnostics⟩ :=
    horder [windows, tabs, more] (List.Perm.swap windows tabs [more]) hgroups
  exact ⟨hnamespaces, hdiagnostics, (hnameless empty {} "untitled.json" rfl).1⟩

end SchemaTypings.Catalog
