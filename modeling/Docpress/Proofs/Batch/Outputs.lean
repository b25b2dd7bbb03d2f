import Docpress.Batch
import Docpress.Proofs.Association
import Docpress.Proofs.FileSystem.Places

/-!
The outputs of a batch. The name of an output has an extension that its stem is cut off from again, so a
path that leads to the output of an input would have the same output itself. Inputs with different
outputs hence neither read nor write each other's output.
-/

namespace Docpress.Batch

open Docpress.Path

/-- The file name of the output of an input. -/
def outputName (input : Path) (format : OutputFormat) : String :=
  input.stem?.getD "index" ++ "." ++ format.name

/-- There is no point in the extension of a format. -/
theorem dotless_format (format : OutputFormat) : '.' ∉ format.name.toList := by
  cases format <;> decide

/-- There is no slash in the extension of a format. -/
theorem slashless_format (format : OutputFormat) : '/' ∉ format.name.toList := by
  cases format <;> decide

/-- The stem of an output's name is not empty and has no slashes, be it the input's or the default. -/
theorem stem_spec (input : Path)
    : input.stem?.getD "index" ≠ "" ∧ '/' ∉ (input.stem?.getD "index").toList := by
  unfold stem?
  cases found : input.fileName? with
  | none => decide
  | some name =>
      obtain ⟨listed, proper⟩ := fileName?_spec found
      obtain ⟨within, named⟩ := splitName_fst name
      constructor
      · exact named (isName_iff.mp proper).1
      · exact fun slash => slashless_of_mem_pieces listed (within _ slash)

/-- There is no slash in the name of an output. -/
theorem slashless_outputName (input : Path) (format : OutputFormat)
    : '/' ∉ (outputName input format).toList := by
  unfold outputName
  rw [String.toList_append, String.toList_append, List.mem_append, List.mem_append, not_or, not_or]
  exact ⟨⟨(stem_spec input).2, by decide⟩, slashless_format format⟩

/-- The extension makes the name of an output too long for one of the names with a meaning of their own.
-/
theorem isName_outputName (input : Path) (format : OutputFormat) : IsName (outputName input format) := by
  have long : 4 < (outputName input format).toList.length := by
    have extension : format.name.toList.length = 4 := by cases format <;> rfl
    have dot : ".".toList.length = 1 := rfl
    unfold outputName
    rw [String.toList_append, String.toList_append, List.length_append, List.length_append, extension,
      dot]
    omega
  have other {name : String} (short : name.toList.length ≤ 4) : outputName input format ≠ name := by
    rintro same
    rw [same] at long
    omega
  exact isName_iff.mpr ⟨other (by decide), other (by decide), other (by decide)⟩

/-- The path of an output ends with its name. -/
theorem getLast?_pieces_outputPath (input directory : Path) (format : OutputFormat)
    : (outputPath input directory format).pieces.getLast? = some (outputName input format) :=
  getLast?_pieces_join directory (slashless_outputName input format)

/-- A path with the name of an output has this output itself. -/
theorem outputPath_eq_of_getLast? {path input directory : Path} {format : OutputFormat}
    (last : path.pieces.getLast? = some (outputName input format))
    : outputPath path directory format = outputPath input directory format := by
  have stem : path.stem?.getD "index" = input.stem?.getD "index" := by
    have cut := splitName_extension (stem_spec input).1 (dotless_format format)
    unfold stem?
    rw [fileName?_of_getLast? last (isName_outputName input format)]
    exact cut
  unfold outputPath
  rw [stem]

/-- A path that names the file in the place of an output has this output itself. -/
theorem outputPath_eq_of_filePlace {tree : FileTree} {path input directory : Path}
    {format : OutputFormat} {place : List String} (found : tree.FilePlace path place)
    (output : tree.FilePlace (outputPath input directory format) place)
    : outputPath path directory format = outputPath input directory format := by
  apply outputPath_eq_of_getLast?
  rw [← found.getLast?.1, output.getLast?.1, getLast?_pieces_outputPath]

/-! ### Inputs with separate outputs -/

/-- No two of the inputs are written to the same output, as far as outputs are written. -/
def Accepted (config : Config) (inputs : List Path) : Prop :=
  ∀ directory, config.outputDir = some directory
    → collision? directory config.format [] inputs = none

/-- Two inputs have different outputs, as far as outputs are written. -/
def Separate (config : Config) (first second : Path) : Prop :=
  ∀ directory, config.outputDir = some directory
    → outputPath first directory config.format ≠ outputPath second directory config.format

/-- Having different outputs goes both ways. -/
theorem Separate.symm {config : Config} {first second : Path} (separate : Separate config first second)
    : Separate config second first :=
  fun directory written => (separate directory written).symm

/-- The place that the output of an input is written to. -/
def OutputPlace (config : Config) (tree : FileTree) (input : Path) (place : List String) : Prop :=
  ∃ directory, config.outputDir = some directory
    ∧ tree.FilePlace (outputPath input directory config.format) place
    ∧ tree.holdsDirectory place = false

/-- The place of an output is the one that its path names. -/
theorem OutputPlace.filePlace {config : Config} {tree : FileTree} {input directory : Path}
    {place : List String} (found : OutputPlace config tree input place)
    (set : config.outputDir = some directory)
    : tree.FilePlace (outputPath input directory config.format) place := by
  obtain ⟨other, set', there, _⟩ := found
  cases set.symm.trans set'
  exact there

/-- With the same directories outputs have the same places. -/
theorem outputPlace_congr {config : Config} {first second : FileTree}
    (same : first.SameDirectories second) {input : Path} {place : List String}
    : OutputPlace config first input place ↔ OutputPlace config second input place := by
  unfold OutputPlace
  simp only [same.filePlace_iff, same.directories]

/-- An output has one place only. -/
theorem OutputPlace.unique {config : Config} {tree : FileTree} {input : Path}
    {place other : List String} (found : OutputPlace config tree input place)
    (again : OutputPlace config tree input other)
    : place = other := by
  obtain ⟨directory, set, there, _⟩ := found
  exact there.unique (again.filePlace set)

/-- No input reads the output of a separate one. -/
theorem Separate.not_read {config : Config} {reader writer : Path}
    (separate : Separate config reader writer) {tree : FileTree} {place : List String}
    (read : tree.FilePlace reader place)
    : ¬OutputPlace config tree writer place := by
  rintro ⟨directory, written, output, _⟩
  exact separate directory written (outputPath_eq_of_filePlace read output)

/-- No input writes the output of a separate one. The path of an output is its own output, so this is
what reading it says.
-/
theorem Separate.not_written {config : Config} {first second : Path}
    (separate : Separate config first second) {tree : FileTree} {place : List String}
    (written : OutputPlace config tree first place)
    : ¬OutputPlace config tree second place := by
  obtain ⟨directory, set, output, _⟩ := written
  have again : outputPath (outputPath first directory config.format) directory config.format
      = outputPath first directory config.format :=
    outputPath_eq_of_getLast? (getLast?_pieces_outputPath first directory config.format)
  rintro ⟨directory', set', output', _⟩
  cases set.symm.trans set'
  exact separate directory set (again.symm.trans (outputPath_eq_of_filePlace output output'))

/-- The check for collisions passes exactly if the outputs differ from each other and from all that came
before. By induction on the inputs, over what is claimed.
-/
theorem collision?_eq_none_iff {directory : Path} {format : OutputFormat}
    {claimed : List (Path × Path)} {inputs : List Path}
    : collision? directory format claimed inputs = none
      ↔ inputs.Pairwise
          (fun first second => outputPath first directory format ≠ outputPath second directory format)
        ∧ ∀ input ∈ inputs, claimed.lookup (outputPath input directory format) = none := by
  induction inputs generalizing claimed with
  | nil =>
      simp only [collision?, List.Pairwise.nil, List.not_mem_nil, false_implies, implies_true, and_self]
  | cons input rest ih =>
      rw [collision?, List.pairwise_cons, List.forall_mem_cons]
      cases known : claimed.lookup (outputPath input directory format) with
      | some previous => simp only [reduceCtorEq, false_and, and_false]
      | none =>
          -- With the first output claimed, the others are free if they differ from it and were free.
          have free (other : Path)
              : ((outputPath input directory format, input) :: claimed).lookup
                    (outputPath other directory format) = none
                ↔ outputPath input directory format ≠ outputPath other directory format
                  ∧ claimed.lookup (outputPath other directory format) = none := by
            rw [List.lookup_cons]
            by_cases same : outputPath input directory format = outputPath other directory format
            · rw [same, beq_self_eq_true]
              simp only [reduceCtorEq, ne_eq, not_true_eq_false, false_and]
            · rw [beq_eq_false_iff_ne.mpr (Ne.symm same)]
              simp only [ne_eq, same, not_false_eq_true, true_and]
          dsimp only
          rw [ih]
          simp only [free]
          constructor
          · rintro ⟨apart, unclaimed⟩
            exact ⟨⟨fun other member => (unclaimed other member).1, apart⟩, trivial,
              fun other member => (unclaimed other member).2⟩
          · rintro ⟨⟨first, apart⟩, _, unclaimed⟩
            exact ⟨apart, fun other member => ⟨first other member, unclaimed other member⟩⟩

/-- The inputs that the check accepts are those of which every two are separate. -/
theorem accepted_iff_pairwise {config : Config} {inputs : List Path}
    : Accepted config inputs ↔ inputs.Pairwise (Separate config) := by
  unfold Accepted Separate
  simp only [collision?_eq_none_iff, List.lookup_nil, implies_true, and_true]
  cases config.outputDir with
  | none =>
      simp only [reduceCtorEq, false_implies, implies_true, true_iff]
      exact List.pairwise_of_forall fun _ _ => trivial
  | some directory => simp only [Option.some.injEq, forall_eq']

end Docpress.Batch
