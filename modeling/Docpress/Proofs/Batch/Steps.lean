import Docpress.Proofs.Batch.Outputs

/-!
What the two steps of an input do to a tree of files. The first one depends on the directories and on the
file that the input names, the second one on the directories alone, and it changes at most the file in
the place of the output.
-/

namespace Docpress.Batch

open FileTree Fallible

variable [Markdown.Reader] [SyntaxLibrary] {config : Config} {input : Path} {contents : String}
  {tree first second : FileTree}

/-- What an input is read and rendered to, if this succeeds. -/
def contents? (config : Config) (tree : FileTree) (input : Path) : Option String :=
  ((renderInput config input : StateM FileTree _).run tree).1.toOption

/-- What becomes of an input that is processed alone, if it does not fail. -/
def outcome? (config : Config) (tree : FileTree) (input : Path) : Option RenderedFile :=
  ((process config input : StateM FileTree _).run tree).1.toOption

/-- The first step of an input reads and renders it, and leaves the files as they are. -/
theorem renderInput_run (config : Config) (input : Path) (tree : FileTree)
    : (renderInput config input : StateM FileTree _).run tree
      = ((tree.readText input).mapError (.unreadable input) >>= renderText config input, tree) := by
  have read : (FileSystem.readText input : StateM FileTree _).run tree = (tree.readText input, tree) := rfl
  unfold renderInput
  rw [StateT.run_bind, read]
  cases tree.readText input <;> rfl

/-- What an input is rendered to is what reading and rendering it gives. -/
theorem contents?_eq_toOption (config : Config) (tree : FileTree) (input : Path)
    : contents? config tree input
      = ((tree.readText input).mapError (.unreadable input) >>= renderText config input).toOption := by
  unfold contents?
  rw [renderInput_run]

/-- The contents of an input are the rendered text of the file that it names. -/
theorem contents?_eq_bind (config : Config) (tree : FileTree) (input : Path)
    : contents? config tree input = (tree.read input).toOption.bind fun content =>
        (String.fromUTF8? content).bind fun source => (renderText config input source).toOption := by
  have rendered : contents? config tree input
      = (tree.readText input).toOption.bind fun source =>
        (renderText config input source).toOption := by
    rw [contents?_eq_toOption]
    cases tree.readText input <;> rfl
  rw [rendered, toOption_readText, Option.bind_assoc]

/-- The first step makes the same of an input in trees that agree on the directories and on the file that
the input names.
-/
theorem contents?_congr (stands : first.HereStands) (same : first.SameDirectories second)
    (unchanged : ∀ place, first.FilePlace input place → first.entry? place = second.entry? place)
    : contents? config first input = contents? config second input := by
  have read : (first.read input).toOption = (second.read input).toOption := by
    apply Option.ext
    intro content
    have known {tree : FileTree}
        : (tree.read input).toOption = some content ↔ tree.read input = .ok content := by
      cases tree.read input <;> simp only [Except.toOption, reduceCtorEq, Option.some.injEq,
        Except.ok.injEq]
    rw [known, known, read_eq_ok_iff stands, read_eq_ok_iff (same.hereStands stands)]
    refine exists_congr fun place => ?_
    rw [same.filePlace_iff, and_congr_right_iff]
    intro found
    rw [unchanged place (same.filePlace_iff.mpr found)]
  rw [contents?_eq_bind, contents?_eq_bind, read]

omit [Markdown.Reader] [SyntaxLibrary] in
/-- The second step, where an output is written. -/
theorem writeOutput_run_some {directory : Path} (set : config.outputDir = some directory)
    (input : Path) (contents : String) (tree : FileTree)
    : (writeOutput config input contents : StateM FileTree _).run tree
      = match tree.write (outputPath input directory config.format) contents.toUTF8 with
        | .ok after =>
            (.ok ⟨input, some (outputPath input directory config.format), contents⟩, after)
        | .error cause => (.error (.file cause), tree) := by
  have written (path : Path) : (FileSystem.writeText path contents : StateM FileTree _).run tree
      = match tree.write path contents.toUTF8 with
        | .ok after => (.ok (), after)
        | .error cause => (.error cause, tree) := rfl
  unfold writeOutput
  rw [set]
  dsimp only
  rw [StateT.run_bind, written]
  cases tree.write (outputPath input directory config.format) contents.toUTF8 <;> rfl

/-- What the second step gives, and the tree that it leaves. -/
inductive Writes (config : Config) (tree : FileTree) (input : Path) (contents : String)
    : Except BatchError RenderedFile → FileTree → Prop where
  /-- No outputs are written. -/
  | nowhere (unset : config.outputDir = none)
    : Writes config tree input contents (.ok ⟨input, none, contents⟩) tree
  | placed {directory : Path} {place : List String} (set : config.outputDir = some directory)
    (output : OutputPlace config tree input place)
    : Writes config tree input contents
        (.ok ⟨input, some (outputPath input directory config.format), contents⟩)
        (tree.put place (.file contents.toUTF8))
  | failed {cause : FileError} {directory : Path} (set : config.outputDir = some directory)
    (closed : ∀ place, ¬OutputPlace config tree input place)
    : Writes config tree input contents (.error (.file cause)) tree

omit [Markdown.Reader] [SyntaxLibrary] in
/-- The second step of an input writes its output or hands it on, by cases on whether there is an output
directory.
-/
theorem writeOutput_run (config : Config) (input : Path) (contents : String) (tree : FileTree)
    : Writes config tree input contents
        ((writeOutput config input contents : StateM FileTree _).run tree).1
        ((writeOutput config input contents : StateM FileTree _).run tree).2 := by
  cases set : config.outputDir with
  | none =>
      have ran : (writeOutput config input contents : StateM FileTree _).run tree
          = (.ok ⟨input, none, contents⟩, tree) := by
        unfold writeOutput
        rw [set]
        rfl
      rw [ran]
      exact .nowhere set
  | some directory =>
      cases result : tree.write (outputPath input directory config.format) contents.toUTF8 with
      | ok after =>
          obtain ⟨place, found, free, rfl⟩ := write_eq_ok_iff.mp result
          rw [writeOutput_run_some set, result]
          exact .placed set ⟨directory, set, found, free⟩
      | error cause =>
          have closed : ∀ place, ¬OutputPlace config tree input place := by
            rintro place ⟨directory', set', found, free⟩
            cases set.symm.trans set'
            rw [write_eq_ok_iff.mpr ⟨place, found, free, rfl⟩] at result
            cases result
          rw [writeOutput_run_some set, result]
          exact .failed set closed

omit [Markdown.Reader] [SyntaxLibrary] in
/-- The second step has one outcome in all trees with the same directories. -/
theorem Writes.toOption_congr (same : first.SameDirectories second)
    {result other : Except BatchError RenderedFile} {after left : FileTree}
    (writes : Writes config first input contents result after)
    (again : Writes config second input contents other left)
    : result.toOption = other.toOption := by
  cases writes with
  | nowhere unset =>
      cases again with
      | nowhere => rfl
      | placed set => cases unset.symm.trans set
      | failed set => cases unset.symm.trans set
  | placed set output =>
      cases again with
      | nowhere unset => cases unset.symm.trans set
      | placed set' =>
          cases set.symm.trans set'
          rfl
      | failed _ closed => exact absurd ((outputPlace_congr same).mp output) (closed _)
  | failed set closed =>
      cases again with
      | nowhere unset => cases unset.symm.trans set
      | placed _ output => exact absurd ((outputPlace_congr same).mpr output) (closed _)
      | failed => rfl

/-- An input that is processed alone goes through both steps, one after the other. -/
theorem outcome?_eq_bind (config : Config) (tree : FileTree) (input : Path)
    : outcome? config tree input = (contents? config tree input).bind fun contents =>
        ((writeOutput config input contents : StateM FileTree _).run tree).1.toOption := by
  unfold outcome? contents? process
  rw [StateT.run_bind, renderInput_run]
  cases (tree.readText input).mapError (BatchError.unreadable input) >>= renderText config input <;> rfl

/-- What can be rendered comes out unless it cannot be written. -/
theorem writes_of_contents? {contents : String} (known : contents? config tree input = some contents)
    : ∃ result after,
        Writes config tree input contents result after
        ∧ outcome? config tree input = result.toOption := by
  refine ⟨_, _, writeOutput_run config input contents tree, ?_⟩
  rw [outcome?_eq_bind, known]
  rfl

/-- An input that comes to a file alone does so by writing what it is rendered to. -/
theorem writes_of_outcome? {file : RenderedFile} (rendered : outcome? config tree input = some file)
    : ∃ contents,
        contents? config tree input = some contents
        ∧ ∃ after, Writes config tree input contents (.ok file) after := by
  have known := rendered
  rw [outcome?_eq_bind] at known
  obtain ⟨contents, known, _⟩ := Option.bind_eq_some_iff.mp known
  obtain ⟨result, after, writes, outcome⟩ := writes_of_contents? known
  rw [rendered] at outcome
  cases result with
  | error error => cases outcome
  | ok other =>
      cases outcome
      exact ⟨contents, known, after, writes⟩

/-- What an input is rendered to tells its path and its output, which is written if outputs are. -/
theorem outcome?_spec {file : RenderedFile} (rendered : outcome? config tree input = some file)
    : file.input = input
      ∧ (config.outputDir = none ∧ file.output = none
        ∨ ∃ directory place, config.outputDir = some directory
          ∧ file.output = some (outputPath input directory config.format)
          ∧ OutputPlace config tree input place) := by
  obtain ⟨contents, _, after, writes⟩ := writes_of_outcome? rendered
  cases writes with
  | nowhere unset => exact ⟨rfl, Or.inl ⟨unset, rfl⟩⟩
  | placed set output => exact ⟨rfl, Or.inr ⟨_, _, set, rfl, output⟩⟩

end Docpress.Batch
