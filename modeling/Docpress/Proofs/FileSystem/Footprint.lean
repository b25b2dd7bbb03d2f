import Docpress.Proofs.FileSystem.Semantics

/-!
In which places files change. A write changes the file that its path names and no other one, and no
operation takes a file away.
-/

namespace Docpress

/-- The content of an entry, if it is a file. -/
def FileEntry.content? : FileEntry → Option ByteArray
  | .directory => none
  | .file content => some content

namespace FileTree

/-- The content of the file in a place, if a file is there. -/
def content? (tree : FileTree) (place : List String) : Option ByteArray :=
  (tree.entry? place).bind FileEntry.content?

/-- What led to a directory still does, no file is gone, and files are changed or new in some places
only.
-/
structure Confined (places : List String → Prop) (before after : FileTree) : Prop where
  keeps : before.KeepsDirectories after
  untouched : ∀ place, ¬places place → after.content? place = before.content? place
  remains
    : ∀ place, (before.content? place).isSome = true → (after.content? place).isSome = true

/-- A place has content if a file with this content is there. -/
theorem content?_eq_some_iff {tree : FileTree} {place : List String} {content : ByteArray}
    : tree.content? place = some content ↔ tree.entry? place = some (.file content) := by
  unfold content?
  rcases tree.entry? place with _ | _ | other <;> simp [FileEntry.content?]

/-- What is in a place is a directory or a file, so the two tell all about it. -/
theorem entry?_congr {first second : FileTree} {place : List String}
    (directory : first.holdsDirectory place = second.holdsDirectory place)
    (file : first.content? place = second.content? place)
    : first.entry? place = second.entry? place := by
  unfold holdsDirectory content? at *
  generalize first.entry? place = one at *
  generalize second.entry? place = two at *
  rcases one with _ | _ | content <;> rcases two with _ | _ | other <;>
    simp_all [FileEntry.isDirectory, FileEntry.content?]

variable {places more : List String → Prop} {before middle after : FileTree}

namespace Confined

/-- Where nothing is done, changes are confined to any places. -/
theorem refl (places : List String → Prop) (tree : FileTree) : Confined places tree tree :=
  ⟨.refl tree, fun _ _ => rfl, fun _ => id⟩

/-- One confined change after another is confined to the same places. -/
theorem trans (first : Confined places before middle) (second : Confined places middle after)
    : Confined places before after where
  keeps := first.keeps.trans second.keeps
  untouched place outside :=
    (second.untouched place outside).trans (first.untouched place outside)
  remains place present := second.remains place (first.remains place present)

/-- What is confined to some places is confined to more of them. -/
theorem mono (confined : Confined places before after) (within : ∀ place, places place → more place)
    : Confined more before after where
  keeps := confined.keeps
  untouched place outside := confined.untouched place fun inside => outside (within place inside)
  remains := confined.remains

end Confined

/-- New directories change no file. -/
theorem Grows.confined (grows : before.Grows after) (places : List String → Prop)
    : Confined places before after := by
  have same (place : List String) : after.content? place = before.content? place := by
    apply Option.ext
    intro content
    rw [content?_eq_some_iff, content?_eq_some_iff, grows.file_iff]
  refine ⟨grows.keepsDirectories, fun place _ => same place, fun place present => ?_⟩
  rwa [same]

/-- A file that is put somewhere is the content there, and no other content changes. -/
theorem content?_put {tree : FileTree} {place : List String} (deep : place ≠ [])
    (content : ByteArray) (other : List String)
    : (tree.put place (.file content)).content? other
      = if other = place then some content else tree.content? other := by
  rw [content?, entry?_put tree deep]
  by_cases same : other = place
  · rw [if_pos same, if_pos same]
    rfl
  · rw [if_neg same, if_neg same]
    rfl

/-- Writing a file is confined to the place that its path names. -/
theorem confined_of_write {path : Path} {content : ByteArray}
    (written : before.write path content = .ok after)
    : Confined (before.FilePlace path) before after := by
  obtain ⟨place, found, free, rfl⟩ := write_eq_ok_iff.mp written
  refine ⟨(sameDirectories_put found.ne_nil free content).symm.keepsDirectories, ?_, ?_⟩
  · intro other outside
    rw [content?_put found.ne_nil, if_neg]
    rintro rfl
    exact outside found
  · intro other present
    rw [content?_put found.ne_nil]
    split
    · rfl
    · exact present

end FileTree

/-- Whatever comes of writing a file is confined to the place that its path names, be it written, torn or
not written at all.
-/
theorem FileEffect.Write.confined {path : Path} {text : String} {files after : FileTree}
    {result : Except FileError Unit} (write : Write path text files result after)
    : files.Confined (files.FilePlace path) after := by
  cases write with
  | done written => exact FileTree.confined_of_write written
  | failed cause => exact .refl _ files
  | torn cause written => exact FileTree.confined_of_write written

end Docpress
