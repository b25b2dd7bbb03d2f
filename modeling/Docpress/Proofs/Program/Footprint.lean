import Docpress.Proofs.Batch.Collisions
import Docpress.Proofs.Batch.Failures
import Docpress.Proofs.Program.Init

/-!
The files that a run of the program may change. They go by the command, by the configuration that is
loaded before the first write and by the inputs that have been rendered, whatever fails on the way and
wherever a run breaks off.
-/

namespace Docpress

open FileTree FileSemantics

/-- The configuration that a command line asks for with some files, if it can be loaded. -/
def CommandLine.config? (line : CommandLine) (files : FileTree) : Option Config :=
  ((Config.resolve line : StateM FileTree _).run files).1.toOption

section

variable {m : Type → Type} [Monad m] [FileSystem m] [FileSemantics m] {line : CommandLine}
  {files after : FileTree}

/-- Loading changes nothing, and what is loaded is what is there. -/
theorem Config.resolve_ends {result : Except ConfigError Config}
    (ends : Ends (Config.resolve line : m _) files result after)
    : after = files ∧ ∀ config, result = .ok config → line.config? files = some config := by
  unfold Config.resolve at ends
  unfold CommandLine.config? Config.resolve
  cases named : line.configFile with
  | none =>
      rw [named] at ends
      obtain ⟨rfl, rfl⟩ := ends_pure.mp ends
      exact ⟨rfl, fun config known => congrArg Except.toOption known⟩
  | some path =>
      rw [named] at ends
      obtain ⟨loaded, between, attempt, ends⟩ := ends_bind.mp ends
      obtain ⟨rfl, rfl⟩ := ends_pure.mp ends
      unfold Config.load at attempt
      obtain ⟨text, _, reading, attempt⟩ := ends_bind.mp attempt
      cases FileSemantics.read reading with
      | failed cause =>
          obtain ⟨rfl, rfl⟩ := ends_pure.mp attempt
          exact ⟨rfl, nofun⟩
      | done given =>
          obtain ⟨rfl, rfl⟩ := ends_pure.mp attempt
          refine ⟨rfl, fun config known => ?_⟩
          dsimp only
          rw [StateT.run_bind, Config.load_run, given]
          exact congrArg Except.toOption known

end

namespace Program

section

variable [Markdown.Reader] [SyntaxLibrary]

/-- The files that a run may leave, ended or broken off, and what has become of its inputs by then. Any
operation may fail, and a run that breaks off between two of them leaves what it would leave if all
later ones failed.
-/
inductive Leaves (m : Type → Type) [Monad m] [FileSystem m] [FileSemantics m] (line : CommandLine)
    (files : FileTree)
    : List Batch.Job → FileTree → Prop where
  /-- A command that renders no documents. -/
  | other {outcome : Outcome} {after : FileTree}
    (named : ∀ arguments, line.command ≠ .render arguments)
    (ends : Ends (execute line : m Outcome) files outcome after)
    : Leaves m line files [] after
  /-- The configuration is loaded, or cannot be. -/
  | resolved {arguments : RenderArguments} {result : Except ConfigError Config} {after : FileTree}
    (named : line.command = .render arguments)
    (resolved : Ends (Config.resolve line : m _) files result after)
    : Leaves m line files [] after
  /-- The output directory is ready, or cannot be. -/
  | prepared {arguments : RenderArguments} {config : Config} {loaded after : FileTree}
    {result : Except BatchError Unit} (named : line.command = .render arguments)
    (resolved : Ends (Config.resolve line : m _) files (.ok config) loaded)
    (ready : Ends (Batch.prepare config arguments.inputs : m _) loaded result after)
    : Leaves m line files [] after
  /-- The inputs are under way or done, their steps in any order. -/
  | rendered {arguments : RenderArguments} {config : Config} {loaded prepared : FileTree}
    {running : Batch.Running} (named : line.command = .render arguments)
    (resolved : Ends (Config.resolve line : m _) files (.ok config) loaded)
    (ready : Ends (Batch.prepare config arguments.inputs : m _) loaded (.ok ()) prepared)
    (reached : Batch.InterleavingIn m config (.start prepared arguments.inputs) running)
    : Leaves m line files running.jobs running.files

/-- The places in which a command line may change files, or make some, if its inputs have got as far as
they have.
-/
inductive MayChange (line : CommandLine) (files : FileTree) (jobs : List Batch.Job)
    (after : FileTree) (place : List String)
    : Prop where
  /-- The output of the command that makes a configuration file, if nothing was there or the user
  insists. A path through a directory that is missing leads nowhere, even if it leads to a file once
  the directory has been made.
  -/
  | init {arguments : InitArguments} (named : line.command = .init arguments)
    (permitted : files.find? arguments.output = none ∨ arguments.force = true)
    (there : after.FilePlace arguments.output place)
  /-- The output of the command that makes a style sheet, if one is given and there is a style sheet. -/
  | stylesheet {arguments : StylesheetArguments} {output : Path} {config : Config} {css : String}
    (named : line.command = .stylesheet arguments) (given : arguments.output = some output)
    (loaded : line.config? files = some config)
    (made : (DocumentRenderer.standard config.render).stylesheet = .ok css)
    (there : after.FilePlace output place)
  /-- The output of an input that was read and rendered, from what was there when the output directory
  was ready, if there is an output directory and no two inputs have the same output.
  -/
  | render {arguments : RenderArguments} {config : Config} {directory : Path} {prepared : FileTree}
    {job : Batch.Job} (named : line.command = .render arguments)
    (loaded : line.config? files = some config) (set : config.outputDir = some directory)
    (apart : Batch.collision? directory config.format [] arguments.inputs = none)
    (grown : files.Grows prepared) (member : job ∈ jobs) (listed : job.input ∈ arguments.inputs)
    (rendered : job.HasRendered)
    (readable : (Batch.contents? config prepared job.input).isSome = true)
    (there : after.FilePlace (Batch.outputPath job.input directory config.format) place)

variable {m : Type → Type} [Monad m] [FileSystem m] [FileSemantics m] {line : CommandLine}
  {files after : FileTree} {jobs : List Batch.Job}

/-- The files that a run of the program leaves when it ends are among those that a run may leave: then
the inputs have been done one after another.
-/
theorem leaves_of_ends {outcome : Outcome} (ends : Ends (execute line : m Outcome) files outcome after)
    : ∃ jobs, Leaves m line files jobs after := by
  cases named : line.command with
  | init arguments =>
      exact ⟨[], .other (fun _ same => nomatch named.symm.trans same) ends⟩
  | stylesheet arguments =>
      exact ⟨[], .other (fun _ same => nomatch named.symm.trans same) ends⟩
  | render arguments =>
      unfold execute at ends
      rw [named] at ends
      obtain ⟨result, loaded, resolved, ends⟩ := ends_bind.mp ends
      cases result with
      | error cause =>
          obtain ⟨_, rfl⟩ := ends_pure.mp ends
          exact ⟨[], .resolved named resolved⟩
      | ok config =>
          dsimp only at ends
          unfold render Batch.run at ends
          obtain ⟨report, between, ran, ends⟩ := ends_bind.mp ends
          obtain ⟨result, prepared, ready, ran⟩ := ends_bind.mp ran
          -- Reporting comes last and touches no files.
          have done : after = between := by
            cases report with
            | error error => exact (ends_pure.mp ends).2
            | ok report => exact (ends_pure.mp ends).2
          subst done
          cases result with
          | error error =>
              obtain ⟨_, rfl⟩ := ends_pure.mp ran
              exact ⟨[], .prepared named resolved ready⟩
          | ok done =>
              obtain ⟨results, last, steps, ran⟩ := ends_bind.mp ran
              obtain ⟨_, rfl⟩ := ends_pure.mp ran
              obtain ⟨jobs, reached⟩ := Batch.interleavingIn_mapM steps []
              exact ⟨jobs, .rendered named resolved ready reached⟩

/-- Making a configuration file changes no file but this one. -/
theorem confined_init {arguments : InitArguments} (named : line.command = .init arguments)
    {outcome : Outcome} (ends : InitEnds arguments files outcome after)
    : files.Confined (MayChange line files jobs after) after := by
  cases ends with
  | stopped failed grows => exact grows.confined _
  | attempted permitted grows write ended =>
      apply (grows.confined _).trans
      apply write.confined.mono
      intro place there
      exact .init named permitted (write.confined.keeps.filePlace there)

/-- Writing a style sheet changes no file but its output, and this one only if there is a style sheet. -/
theorem confined_stylesheet {arguments : StylesheetArguments}
    (named : line.command = .stylesheet arguments) {config : Config}
    (loaded : line.config? files = some config) {outcome : Outcome}
    (ends : Ends (stylesheet config arguments.output : m _) files outcome after)
    : files.Confined (MayChange line files jobs after) after := by
  unfold stylesheet at ends
  split at ends
  next =>
    obtain ⟨_, rfl⟩ := ends_pure.mp ends
    exact .refl _ _
  next css made =>
    split at ends
    next =>
      obtain ⟨_, rfl⟩ := ends_pure.mp ends
      exact .refl _ _
    next output given =>
      obtain ⟨result, between, attempt, ends⟩ := ends_bind.mp ends
      have done : after = between := by
        cases result with
        | error cause => exact (ends_pure.mp ends).2
        | ok done => exact (ends_pure.mp ends).2
      subst done
      have confined := (write attempt).confined
      apply confined.mono
      intro place there
      exact .stylesheet named given loaded made (confined.keeps.filePlace there)

/-- A command that renders no documents changes what it may. -/
theorem confined_execute (other : ∀ arguments, line.command ≠ .render arguments)
    {outcome : Outcome} (ends : Ends (execute line : m _) files outcome after)
    : files.Confined (MayChange line files jobs after) after := by
  unfold execute at ends
  cases named : line.command with
  | init arguments =>
      rw [named] at ends
      exact confined_init named (initEnds_of_ends ends)
  | stylesheet arguments =>
      rw [named] at ends
      obtain ⟨result, between, resolved, ends⟩ := ends_bind.mp ends
      obtain ⟨rfl, known⟩ := Config.resolve_ends resolved
      cases result with
      | error cause =>
          obtain ⟨_, rfl⟩ := ends_pure.mp ends
          exact .refl _ _
      | ok config => exact confined_stylesheet named (known config rfl) ends
  | render arguments => exact absurd named (other arguments)

/-- A batch under way has changed what it may. -/
theorem confined_batch (stands : files.HereStands) {arguments : RenderArguments}
    (named : line.command = .render arguments) {config : Config}
    (loaded : line.config? files = some config) {prepared : FileTree}
    (ready : Ends (Batch.prepare config arguments.inputs : m _) files (.ok ()) prepared)
    {running : Batch.Running}
    (reached : Batch.InterleavingIn m config (.start prepared arguments.inputs) running)
    : files.Confined (MayChange line files running.jobs running.files) running.files := by
  have grown := Batch.grows_prepare ready
  have accepted := Batch.accepted_of_prepare ready
  obtain ⟨contained, same⟩ := reached.contained (grown.hereStands stands) accepted
  apply (grown.confined _).trans
  apply contained.confined.mono
  rintro place ⟨job, member, rendered, readable, directory, set, there, _⟩
  have listed : job.input ∈ arguments.inputs := same ▸ List.mem_map_of_mem member
  exact .render named loaded set (accepted directory set) grown member listed rendered readable
    (contained.directories.filePlace there)

/-- Wherever a run breaks off, it has changed no files but those that it may, by cases on how far it has
come.
-/
theorem Leaves.confined (stands : files.HereStands) (left : Leaves m line files jobs after)
    : files.Confined (MayChange line files jobs after) after := by
  cases left with
  | other other ends => exact confined_execute other ends
  | resolved named resolved =>
      obtain ⟨rfl, _⟩ := Config.resolve_ends resolved
      exact .refl _ _
  | prepared named resolved ready =>
      obtain ⟨rfl, _⟩ := Config.resolve_ends resolved
      exact (Batch.grows_prepare ready).confined _
  | rendered named resolved ready reached =>
      obtain ⟨rfl, known⟩ := Config.resolve_ends resolved
      exact confined_batch stands named (known _ rfl) ready reached

/-- Whatever a run does, whatever fails in it and wherever it breaks off, files are changed or made only
in the places in which the command line may change them, and none goes away. A command that renders
documents changes no file at all unless it has a configuration with an output directory, in which no
two inputs have the same output.
-/
theorem changes_confined (stands : files.HereStands)
    : (∀ outcome after,
        Ends (execute line : m Outcome) files outcome after
        → ∃ jobs, Leaves m line files jobs after)
      ∧ ∀ jobs after,
          Leaves m line files jobs after
          → files.Confined (MayChange line files jobs after) after
            ∧ ∀ arguments,
                line.command = .render arguments
                → (∀ config directory,
                    line.config? files = some config
                    → config.outputDir = some directory
                    → Batch.collision? directory config.format [] arguments.inputs ≠ none)
                → ∀ place, after.content? place = files.content? place := by
  refine ⟨fun outcome after => leaves_of_ends, fun jobs after left => ?_⟩
  have confined := left.confined stands
  refine ⟨confined, fun arguments renders refused place => ?_⟩
  apply confined.untouched
  intro allowed
  cases allowed with
  | init named => cases renders.symm.trans named
  | stylesheet named => cases renders.symm.trans named
  | render named loaded set apart =>
      cases renders.symm.trans named
      exact refused _ _ loaded set apart

end

/-! ### A write that breaks off -/

section

open Batch (outputDirSample configSample)

/-- The command that renders one input into the output directory. -/
def renderSample : CommandLine where
  command := .render { inputs := [⟨"b.md"⟩], outputDir := some ⟨"out"⟩ }

/-- What has become of the input: its output could not be written to the end. -/
def jobsSample : List Batch.Job :=
  [⟨⟨"b.md"⟩, .finished (.error (.file (.other "No space left on device")))⟩]

/-- The files after the write broke off in the middle. -/
def tornSample : FileTree :=
  outputDirSample.put ["out", "b.html"] (.file "<p>".toUTF8)

/-- The output directory of the sample is there already, so that making it fails and is forgiven. -/
theorem prepared_of_outputDirSample
    : Ends (Batch.prepare configSample [⟨"b.md"⟩] : Unreliable _) outputDirSample (.ok ())
        outputDirSample := by
  have lineage : (⟨"out"⟩ : Path).lineage = [⟨"out"⟩] := by decide +kernel
  have made : Ends (FileSystem.makeDirectories ⟨"out"⟩ : Unreliable _) outputDirSample (.ok ())
      outputDirSample := by
    unfold FileSystem.makeDirectories
    rw [lineage]
    refine ends_bind.mpr ⟨_, _, .failed .alreadyExists, ?_⟩
    exact ends_bind.mpr ⟨true, _, ⟨rfl, rfl⟩, ends_pure.mpr ⟨rfl, rfl⟩⟩
  exact ends_bind.mpr ⟨_, _, made, ends_pure.mpr ⟨rfl, rfl⟩⟩

/-- The input is read and rendered. -/
theorem rendered_of_outputDirSample
    : Batch.StepIn Unreliable configSample ⟨outputDirSample, [] ++ [⟨⟨"b.md"⟩, .waiting⟩]⟩
        ⟨outputDirSample, [] ++ [⟨⟨"b.md"⟩, .rendered "<p>new</p>"⟩]⟩ := by
  have given : outputDirSample.readText ⟨"b.md"⟩ = .ok "new" := by decide +kernel
  have result : Batch.renderText configSample ⟨"b.md"⟩ "new" = .ok "<p>new</p>" := by
    decide +kernel
  have rendered : Ends (Batch.renderInput configSample ⟨"b.md"⟩ : Unreliable _) outputDirSample
      (.ok "<p>new</p>") outputDirSample :=
    ends_bind.mpr ⟨_, _, .done given, ends_pure.mpr ⟨result.symm, rfl⟩⟩
  exact .job rfl (ends_bind.mpr ⟨_, _, rendered, ends_pure.mpr ⟨rfl, rfl⟩⟩)

/-- The write of the output fails after it has begun. -/
theorem torn_of_outputDirSample
    : Batch.StepIn Unreliable configSample
        ⟨outputDirSample, [] ++ [⟨⟨"b.md"⟩, .rendered "<p>new</p>"⟩]⟩
        ⟨tornSample, [] ++ jobsSample⟩ := by
  have pieces : (⟨"out/b.html"⟩ : Path).pieces = ["out"] ++ ["b.html"] := by decide +kernel
  have output : outputDirSample.FilePlace ⟨"out/b.html"⟩ (["out"] ++ ["b.html"]) :=
    .intro pieces ⟨rfl, by decide⟩ rfl rfl
  have wrote : outputDirSample.write ⟨"out/b.html"⟩ "<p>".toUTF8 = .ok tornSample :=
    write_eq_ok_iff.mpr ⟨_, output, rfl, rfl⟩
  have torn : Ends (Batch.writeOutput configSample ⟨"b.md"⟩ "<p>new</p>" : Unreliable _)
      outputDirSample (.error (.file (.other "No space left on device"))) tornSample :=
    ends_bind.mpr ⟨_, _, .torn _ wrote, ends_pure.mpr ⟨rfl, rfl⟩⟩
  exact .job rfl (ends_bind.mpr ⟨_, _, torn, ends_pure.mpr ⟨rfl, rfl⟩⟩)

/-- An output whose write broke off is changed, and no other file is. -/
theorem changes_confined_of_tornSample
    : outputDirSample.HereStands
      ∧ Leaves Unreliable renderSample outputDirSample jobsSample tornSample
      ∧ tornSample.content? ["out", "b.html"] ≠ outputDirSample.content? ["out", "b.html"]
      ∧ outputDirSample.Confined (MayChange renderSample outputDirSample jobsSample tornSample)
          tornSample := by
  have stands : outputDirSample.HereStands := hereStands_of_top rfl
  have named : renderSample.command
      = .render { inputs := [⟨"b.md"⟩], outputDir := some ⟨"out"⟩ } :=
    rfl
  have resolved : Ends (Config.resolve renderSample : Unreliable _) outputDirSample
      (.ok configSample) outputDirSample :=
    ends_pure.mpr ⟨rfl, rfl⟩
  have reached : Batch.InterleavingIn Unreliable configSample (.start outputDirSample [⟨"b.md"⟩])
      ⟨tornSample, jobsSample⟩ :=
    .head rendered_of_outputDirSample (.single torn_of_outputDirSample)
  have left : Leaves Unreliable renderSample outputDirSample jobsSample tornSample :=
    .rendered named resolved prepared_of_outputDirSample reached
  refine ⟨stands, left, ?_, ((changes_confined stands).2 _ _ left).1⟩
  decide +kernel

end

end Program

end Docpress
