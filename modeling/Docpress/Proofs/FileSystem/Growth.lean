import Docpress.Proofs.FileSystem.Places

/-!
What making directories does to a tree of files: it puts directories where nothing was. Every path that
led somewhere still leads there, and no file appears, disappears or changes.
-/

namespace Docpress.FileTree

open Docpress.Path Fallible

/-- The second tree has what the first one has, and new directories besides. -/
structure Grows (before after : FileTree) : Prop where
  here : after.here = before.here
  entries
    : ∀ place,
        after.entry? place = before.entry? place
        ∨ before.entry? place = none ∧ after.entry? place = some .directory

namespace Grows

variable {before middle after : FileTree}

/-- A tree has what it has. -/
theorem refl (tree : FileTree) : Grows tree tree :=
  ⟨rfl, fun _ => Or.inl rfl⟩

/-- Growing twice is growing: what is made in the second step was not there before the first. -/
theorem trans (first : Grows before middle) (second : Grows middle after)
    : Grows before after := by
  refine ⟨second.here.trans first.here, ?_⟩
  intro place
  rcases second.entries place with kept | ⟨absent, made⟩
  · rw [kept]
    exact first.entries place
  · rcases first.entries place with same | ⟨_, already⟩
    · exact Or.inr ⟨same.symm.trans absent, made⟩
    · rw [already] at absent
      cases absent

/-- What is there stays, because only free places are taken. -/
theorem entry (grows : Grows before after) {place : List String} {entry : FileEntry}
    (present : before.entry? place = some entry)
    : after.entry? place = some entry := by
  rcases grows.entries place with same | ⟨absent, _⟩
  · exact same.trans present
  · rw [present] at absent
    cases absent

/-- The new entries are no files. -/
theorem file_iff (grows : Grows before after) {place : List String} {content : ByteArray}
    : after.entry? place = some (.file content) ↔ before.entry? place = some (.file content) := by
  constructor
  · intro file
    rcases grows.entries place with same | ⟨_, made⟩
    · exact same.symm.trans file
    · rw [made] at file
      cases file
  · exact grows.entry

/-- Directories stay when a tree grows. -/
theorem holdsDirectory (grows : Grows before after) {place : List String}
    (stands : before.holdsDirectory place = true)
    : after.holdsDirectory place = true :=
  holdsDirectory_iff.mpr (grows.entry (holdsDirectory_iff.mp stands))

/-- A tree that grows keeps its directories. -/
theorem keepsDirectories (grows : Grows before after) : before.KeepsDirectories after where
  here := grows.here
  directories _ := grows.holdsDirectory

/-- The directories that lead to where relative paths start stay when a tree grows. -/
theorem hereStands (grows : Grows before after) (stands : before.HereStands)
    : after.HereStands :=
  grows.keepsDirectories.hereStands stands

/-- A path names the place that it named before the tree has grown. -/
theorem filePlace (grows : Grows before after) {path : Path} {place : List String}
    (found : before.FilePlace path place)
    : after.FilePlace path place :=
  grows.keepsDirectories.filePlace found

/-- A file that could be read is read as before. -/
theorem read (grows : Grows before after) (stands : before.HereStands) {path : Path}
    {content : ByteArray} (given : before.read path = .ok content)
    : after.read path = .ok content := by
  obtain ⟨place, found, file⟩ := (read_eq_ok_iff stands).mp given
  apply (read_eq_ok_iff (grows.hereStands stands)).mpr
  exact ⟨place, grows.filePlace found, grows.entry file⟩

end Grows

/-- A directory in a place where nothing was lets the tree grow. -/
theorem grows_put {tree : FileTree} {place : List String} (absent : tree.entry? place = none)
    : Grows tree (tree.put place .directory) := by
  have deep : place ≠ [] := by
    intro top
    subst top
    cases absent
  refine ⟨here_put tree place _, ?_⟩
  intro other
  rw [entry?_put tree deep]
  split
  next same =>
    subst same
    exact Or.inr ⟨absent, rfl⟩
  next => exact Or.inl rfl

/-- Making a directory lets the tree grow, since it fails where something is already. -/
theorem grows_makeDirectory {tree after : FileTree} {path : Path}
    (made : tree.makeDirectory path = .ok after)
    : Grows tree after := by
  obtain ⟨found, _, made⟩ := bind_eq_ok_iff.mp made
  split at made
  next => cases made
  next place _ =>
    split at made
    next => cases made
    next absent =>
      cases made
      apply grows_put
      simpa using absent

end Docpress.FileTree
