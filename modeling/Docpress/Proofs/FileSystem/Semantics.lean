import Docpress.Proofs.FileSystem.Growth

/-!
What runs do to a tree of files when every operation may fail at any time. Questions are answered truly
and change nothing; what is read is there; what is written or made is there afterwards. An operation
that fails gives any error whatever and changes nothing, except that a write that fails may leave a
content of its own in the file.
-/

namespace Docpress

namespace FileEffect

/-- What can come of reading a file. -/
inductive Read (path : Path) (files : FileTree) : Except FileError String → FileTree → Prop where
  | done {text : String} (given : files.readText path = .ok text)
    : Read path files (.ok text) files
  | failed (cause : FileError)
    : Read path files (.error cause) files

/-- What can come of writing a file. -/
inductive Write (path : Path) (text : String) (files : FileTree)
    : Except FileError Unit → FileTree → Prop where
  | done {after : FileTree} (written : files.write path text.toUTF8 = .ok after)
    : Write path text files (.ok ()) after
  | failed (cause : FileError)
    : Write path text files (.error cause) files
  /-- The file is there, with a part of the text or with anything else. -/
  | torn {content : ByteArray} {after : FileTree} (cause : FileError)
    (written : files.write path content = .ok after)
    : Write path text files (.error cause) after

/-- What can come of making a directory. -/
inductive Make (path : Path) (files : FileTree) : Except FileError Unit → FileTree → Prop where
  | done {after : FileTree} (made : files.makeDirectory path = .ok after)
    : Make path files (.ok ()) after
  | failed (cause : FileError)
    : Make path files (.error cause) files

/-- Whatever comes of making a directory, the tree has grown by this directory or not at all. -/
theorem Make.grows {path : Path} {files after : FileTree} {result : Except FileError Unit}
    (make : Make path files result after)
    : files.Grows after := by
  cases make with
  | done made => exact FileTree.grows_makeDirectory made
  | failed cause => exact .refl files

end FileEffect

/-- How runs in a monad with files end, if they start with a tree of files: with which results, and with
which files.
-/
class FileSemantics (m : Type → Type) [Monad m] [FileSystem m] where
  Ends {α : Type} : m α → FileTree → α → FileTree → Prop
  ends_pure {α : Type} {value result : α} {files after : FileTree}
    : Ends (pure value) files result after ↔ result = value ∧ after = files
  ends_bind {α β : Type} {first : m α} {next : α → m β} {files after : FileTree} {result : β}
    : Ends (first >>= next) files result after
      ↔ ∃ value between, Ends first files value between ∧ Ends (next value) between result after
  read {path : Path} {files after : FileTree} {result : Except FileError String}
    : Ends (FileSystem.readText path) files result after
      → FileEffect.Read path files result after
  write {path : Path} {text : String} {files after : FileTree} {result : Except FileError Unit}
    : Ends (FileSystem.writeText path text) files result after
      → FileEffect.Write path text files result after
  make {path : Path} {files after : FileTree} {result : Except FileError Unit}
    : Ends (FileSystem.makeDirectory path) files result after
      → FileEffect.Make path files result after
  isPresent {path : Path} {files after : FileTree} {result : Bool}
    : Ends (FileSystem.isPresent path) files result after
      → result = (files.find? path).isSome ∧ after = files
  isDirectory {path : Path} {files after : FileTree} {result : Bool}
    : Ends (FileSystem.isDirectory path) files result after
      → result = (files.find? path).any (·.isDirectory) ∧ after = files

/-! ### Operations that fail for a reason -/

/-- Writing into a file tree is one of the things that can come of writing a file. -/
theorem FileTree.write_of_update {path : Path} {text : String} {files after : FileTree}
    {result : Except FileError Unit}
    (ran : FileTree.update (fun tree => tree.write path text.toUTF8) files = (result, after))
    : FileEffect.Write path text files result after := by
  unfold FileTree.update at ran
  split at ran
  next changed written =>
    cases ran
    exact .done written
  next cause _ =>
    cases ran
    exact .failed cause

/-- Making a directory in a file tree is one of the things that can come of making one. -/
theorem FileTree.make_of_update {path : Path} {files after : FileTree}
    {result : Except FileError Unit}
    (ran : FileTree.update (fun tree => tree.makeDirectory path) files = (result, after))
    : FileEffect.Make path files result after := by
  unfold FileTree.update at ran
  split at ran
  next changed made =>
    cases ran
    exact .done made
  next cause _ =>
    cases ran
    exact .failed cause

/-- A tree of files is one of the things that runs can be carried out on. -/
instance : FileSemantics (StateM FileTree) where
  Ends run files result after := run.run files = (result, after)
  ends_pure {_ value result files after} := by
    rw [StateT.run_pure]
    exact ⟨fun ran => by cases ran; exact ⟨rfl, rfl⟩, by rintro ⟨rfl, rfl⟩; rfl⟩
  ends_bind {_ _ first next files after result} := by
    rw [StateT.run_bind]
    constructor
    · intro ran
      exact ⟨_, _, rfl, ran⟩
    · rintro ⟨value, between, here, later⟩
      rw [here]
      exact later
  read {path files after result} ran := by
    cases given : files.readText path with
    | ok text =>
        cases ran.symm.trans (congrArg (·, files) given)
        exact .done given
    | error cause =>
        cases ran.symm.trans (congrArg (·, files) given)
        exact .failed cause
  write ran := FileTree.write_of_update ran
  make ran := FileTree.make_of_update ran
  isPresent ran := by
    cases ran
    exact ⟨rfl, rfl⟩
  isDirectory ran := by
    cases ran
    exact ⟨rfl, rfl⟩

/-! ### Operations that fail for no reason -/

/-- Runs on a file system that is not to be relied on: for all files that a run starts with, the results
and the files that it can end with.
-/
def Unreliable (α : Type) : Type :=
  FileTree → α → FileTree → Prop

namespace Unreliable

instance : Monad Unreliable where
  pure value := fun files result after => result = value ∧ after = files
  bind first next := fun files result after =>
    ∃ value between, first files value between ∧ next value between result after

/-- Everything that can come of an operation may come of it at any time. -/
instance : FileSystem Unreliable where
  readText path := FileEffect.Read path
  writeText path text := FileEffect.Write path text
  makeDirectory path := FileEffect.Make path
  isPresent path := fun files result after =>
    result = (files.find? path).isSome ∧ after = files
  isDirectory path := fun files result after =>
    result = (files.find? path).any (·.isDirectory) ∧ after = files

instance : FileSemantics Unreliable where
  Ends run := run
  ends_pure := Iff.rfl
  ends_bind := Iff.rfl
  read := id
  write := id
  make := id
  isPresent := id
  isDirectory := id

end Unreliable

/-! ### Loops, and making directories -/

namespace FileSemantics

variable {m : Type → Type} [Monad m] [FileSystem m] [FileSemantics m]

/-- The results of a loop come behind those that it starts with. By induction on the items. -/
theorem ends_mapM_loop {α β : Type} {f : α → m β} {items : List α} {done results : List β}
    {files after : FileTree}
    : Ends (List.mapM.loop f items done) files results after
      ↔ ∃ later,
          Ends (List.mapM.loop f items []) files later after ∧ results = done.reverse ++ later := by
  induction items generalizing done results files with
  | nil => simp [List.mapM.loop, ends_pure, and_comm]
  | cons item rest ih =>
      simp only [List.mapM.loop, ends_bind]
      constructor
      · rintro ⟨result, between, here, there⟩
        obtain ⟨later, ends, rfl⟩ := ih.mp there
        refine ⟨result :: later, ⟨result, between, here, ih.mpr ⟨later, ends, rfl⟩⟩, ?_⟩
        rw [List.reverse_cons, List.append_assoc, List.singleton_append]
      · rintro ⟨_, ⟨result, between, here, there⟩, rfl⟩
        obtain ⟨later, ends, rfl⟩ := ih.mp there
        refine ⟨result, between, here, ih.mpr ⟨later, ends, ?_⟩⟩
        simp

/-- A run over a list ends with the result of the first item in front of the results of the others, which
start with the files that the first one ends with.
-/
theorem ends_mapM_cons {α β : Type} {f : α → m β} {item : α} {rest : List α} {results : List β}
    {files after : FileTree}
    : Ends ((item :: rest).mapM f) files results after
      ↔ ∃ result between later,
          Ends (f item) files result between
          ∧ Ends (rest.mapM f) between later after
          ∧ results = result :: later := by
  simp only [List.mapM, List.mapM.loop, ends_bind]
  constructor
  · rintro ⟨result, between, here, there⟩
    obtain ⟨later, ends, rfl⟩ := ends_mapM_loop.mp there
    exact ⟨result, between, later, here, ends, rfl⟩
  · rintro ⟨result, between, later, here, ends, rfl⟩
    exact ⟨result, between, here, ends_mapM_loop.mpr ⟨later, ends, rfl⟩⟩

/-- Looking whether a directory is there after all changes no files. -/
theorem grows_settle {path : Path} {given result : Except FileError Unit} {files after : FileTree}
    (ends : Ends (FileSystem.makeLineage.settle path given : m _) files result after)
    : files.Grows after := by
  cases given with
  | ok done =>
      obtain ⟨_, rfl⟩ := ends_pure.mp ends
      exact .refl _
  | error cause =>
      rw [FileSystem.makeLineage.settle] at ends
      obtain ⟨there, between, asked, answered⟩ := ends_bind.mp ends
      obtain ⟨_, rfl⟩ := isDirectory asked
      obtain ⟨_, rfl⟩ := ends_pure.mp answered
      exact .refl _

/-- Making directories adds directories at most, even if it fails half-way. By induction on the
directories, each of which lies in the next one.
-/
theorem grows_makeLineage {paths : List Path} {files after : FileTree}
    {result : Except FileError Unit}
    (ends : Ends (FileSystem.makeLineage paths : m _) files result after)
    : files.Grows after := by
  induction paths generalizing files after result with
  | nil =>
      obtain ⟨_, rfl⟩ := ends_pure.mp ends
      exact .refl _
  | cons path parents ih =>
      rw [FileSystem.makeLineage] at ends
      obtain ⟨first, between, made, ends⟩ := ends_bind.mp ends
      apply (make made).grows.trans
      -- The directory may be there, may need the one above it, or may fail for another reason.
      match first with
      | .ok () =>
          obtain ⟨_, rfl⟩ := ends_pure.mp ends
          exact .refl _
      | .error .notFound =>
          obtain ⟨above, next, parentsMade, ends⟩ := ends_bind.mp ends
          apply (ih parentsMade).trans
          cases above with
          | error cause =>
              obtain ⟨_, rfl⟩ := ends_pure.mp ends
              exact .refl _
          | ok done =>
              obtain ⟨again, last, made, ends⟩ := ends_bind.mp ends
              exact (make made).grows.trans (grows_settle ends)
      | .error .alreadyExists | .error .notDirectory | .error .isDirectory | .error .notText
      | .error (.other _) => exact grows_settle ends

end FileSemantics

end Docpress
