import SchemaTypings.Files.Tree

/-!
# What stands where in a file tree

A tree is seen through its entries: what stands at each place, without what stands below it. What an
operation does is told by the entries that it changes.

* `FileNode.entryAt_replace`: putting a file or an empty directory at a free place, or a file in the place
  of another, changes this one entry.
* `FileNode.Grows`: entries are kept while others come, and a file may get other contents.
-/

namespace SchemaTypings

/-- What stands at a place. -/
inductive FileEntry where
  | file (contents : ByteArray)
  | directory
  | link (target : String)

/-- The entry stays what it is; a file may get other contents. -/
inductive FileEntry.Stays : FileEntry → FileEntry → Prop
  | file (old new : ByteArray) : Stays (.file old) (.file new)
  | directory : Stays .directory .directory
  | link (target : String) : Stays (.link target) (.link target)

theorem FileEntry.Stays.refl : ∀ e : FileEntry, e.Stays e
  | .file contents => .file contents contents
  | .directory => .directory
  | .link target => .link target

namespace FileNode

/-- A node without what stands below it. -/
def entry : FileNode → FileEntry
  | file contents => .file contents
  | directory _ => .directory
  | link target => .link target

/-- The entry at a place. -/
def entryAt (root : FileNode) (place : Location) : Option FileEntry := (root.find? place).map entry

variable {root node new : FileNode} {place : Location} {name : String}

theorem find?_cons (name : String) (rest : Location) (node : FileNode) :
    node.find? (name :: rest) = (node.entries?.bind (Fields.find? name)).bind (find? rest) := by
  rw [find?]
  cases node.entries?.bind (Fields.find? name) <;> rfl

theorem find?_append (front back : Location) (node : FileNode) :
    node.find? (front ++ back) = (node.find? front).bind (find? back) := by
  induction front generalizing node with
  | nil => rfl
  | cons name rest ih =>
    rw [List.cons_append, find?_cons, find?_cons]
    cases node.entries?.bind (Fields.find? name) with
    | none => rfl
    | some child => exact ih child

theorem entryAt_cons (name : String) (rest : Location) (node : FileNode) :
    node.entryAt (name :: rest) =
      (node.entries?.bind (Fields.find? name)).bind fun child => child.entryAt rest := by
  rw [entryAt, find?_cons, Option.map_bind]
  rfl

theorem entryAt_append (front back : Location) (node : FileNode) :
    node.entryAt (front ++ back) = (node.find? front).bind fun below => below.entryAt back := by
  rw [entryAt, find?_append, Option.map_bind]
  rfl

theorem entry_eq_directory : node.entry = .directory ↔ ∃ entries, node.entries? = some entries := by
  cases node with
  | directory entries => exact ⟨fun _ => ⟨entries, rfl⟩, fun _ => rfl⟩
  | file => exact ⟨nofun, nofun⟩
  | link => exact ⟨nofun, nofun⟩

/-- A place is one of a directory exactly when something can be looked up there. -/
theorem entryAt_eq_directory :
    root.entryAt place = some .directory ↔
      ∃ entries, (root.find? place).bind entries? = some entries := by
  rw [entryAt]
  cases root.find? place with
  | none => exact ⟨nofun, nofun⟩
  | some node => simpa using entry_eq_directory

/-- The entry of a name in a directory. -/
theorem entryAt_concat {entries : Fields FileNode}
    (h : (root.find? place).bind entries? = some entries) (name : String) :
    root.entryAt (place ++ [name]) = (Fields.find? name entries).map entry := by
  obtain ⟨node, hnode, hentries⟩ := Option.bind_eq_some_iff.mp h
  rw [entryAt_append, hnode, Option.bind_some, entryAt_cons, hentries, Option.bind_some]
  cases Fields.find? name entries <;> rfl

/-- Nothing stands below a place where nothing stands, or no directory. -/
theorem entryAt_below (h : root.entryAt place ≠ some .directory) (name : String)
    (rest : Location) : root.entryAt (place ++ name :: rest) = none := by
  rw [entryAt_append]
  cases hnode : root.find? place with
  | none => rfl
  | some node =>
    have hbare : node.entries? = none := by
      cases node with
      | directory => exact absurd (by rw [entryAt, hnode]; rfl) h
      | file => rfl
      | link => rfl
    rw [Option.bind_some, entryAt_cons, hbare, Option.bind_none, Option.bind_none]

/-- Whatever stands somewhere stands in a directory. -/
theorem entryAt_dropLast {e : FileEntry} (h : root.entryAt place = some e) (hplace : place ≠ []) :
    root.entryAt place.dropLast = some .directory := by
  refine Classical.byContradiction fun hdirectory => ?_
  have hnone := entryAt_below hdirectory (place.getLast hplace) []
  rw [List.dropLast_concat_getLast hplace, h] at hnone
  cases hnone

/-! ## Replacement -/

/-- The node stands for its entry alone. -/
def Bare (node : FileNode) : Prop := ∀ name rest, node.entryAt (name :: rest) = none

/-- The way to a place in a directory begins in a directory. -/
theorem exists_entries (h : root.entryAt (name :: place).dropLast = some .directory) :
    ∃ entries, root = .directory entries := by
  cases root with
  | directory entries => exact ⟨entries, rfl⟩
  | file => cases place <;> cases h
  | link => cases place <;> cases h

/-- **Putting a node without anything below it where nothing is below changes one entry.** The directory
of the place has to be there. -/
theorem entryAt_replace (hnew : new.Bare) (hbelow : root.entryAt place ≠ some .directory)
    (hroom : place ≠ [] → root.entryAt place.dropLast = some .directory) (other : Location) :
    (root.replace place new).entryAt other =
      if other = place then some new.entry else root.entryAt other := by
  induction place generalizing root other with
  | nil =>
    rw [replace]
    cases other with
    | nil => rfl
    | cons name rest =>
      rw [if_neg (List.cons_ne_nil _ _), hnew name rest]
      exact (entryAt_below hbelow name rest).symm
  | cons name place ih =>
    obtain ⟨entries, rfl⟩ := exists_entries (hroom (List.cons_ne_nil _ _))
    have hcons (rest : Location) : (FileNode.directory entries).entryAt (name :: rest) =
        (Fields.find? name entries).bind fun child => child.entryAt rest :=
      entryAt_cons name rest _
    -- Below the name it is the same with the child.
    have hchild (rest : Location) :
        (((Fields.find? name entries).getD new).replace place new).entryAt rest =
          if rest = place then some new.entry
          else (FileNode.directory entries).entryAt (name :: rest) := by
      rw [hcons]
      rw [hcons] at hbelow
      cases hfind : Fields.find? name entries with
      | some child =>
        rw [hfind] at hbelow
        refine @ih child hbelow (fun hplace => ?_) rest
        have := hroom (List.cons_ne_nil _ _)
        rwa [List.dropLast_cons_of_ne_nil hplace, hcons, hfind] at this
      | none =>
        obtain rfl : place = [] := by
          refine Classical.byContradiction fun hplace => ?_
          have := hroom (List.cons_ne_nil _ _)
          rw [List.dropLast_cons_of_ne_nil hplace, hcons, hfind] at this
          cases this
        cases rest with
        | nil => rfl
        | cons next rest =>
          rw [if_neg (List.cons_ne_nil _ _)]
          exact hnew next rest
    rw [replace]
    cases other with
    | nil => rfl
    | cons first rest =>
      rw [entryAt_cons]
      change (Fields.find? first (Fields.put name _ entries)).bind _ = _
      by_cases hname : first = name
      · subst hname
        rw [Fields.find?_put_self, Option.bind_some, hchild]
        simp only [List.cons.injEq, true_and]
      · rw [Fields.find?_put_of_ne hname, if_neg (fun h => hname (List.cons.inj h).1), entryAt_cons]
        rfl

/-! ## Growth -/

/-- What stands in the first tree stays in the second one. -/
def Grows (root root' : FileNode) : Prop :=
  ∀ place e, root.entryAt place = some e → ∃ e', root'.entryAt place = some e' ∧ e.Stays e'

namespace Grows

variable {root' : FileNode}

theorem directory (h : root.Grows root') (hplace : root.entryAt place = some .directory) :
    root'.entryAt place = some .directory := by
  obtain ⟨e', he', hstays⟩ := h place _ hplace
  cases hstays
  exact he'

theorem link {target : String} (h : root.Grows root')
    (hplace : root.entryAt place = some (.link target)) :
    root'.entryAt place = some (.link target) := by
  obtain ⟨e', he', hstays⟩ := h place _ hplace
  cases hstays
  exact he'

end Grows

end FileNode

end SchemaTypings
