import Docpress.Proofs.Batch.Reports
import Docpress.Proofs.FileSystem.Footprint

/-!
Batches on a file system whose operations may fail at any time. Whatever fails, and in whatever order the
steps of the inputs are done, a batch reads what its inputs had at the start, and it changes no files
but the outputs of inputs that it has read and rendered.
-/

namespace Docpress.Batch

open FileTree FileSemantics

variable [Markdown.Reader] [SyntaxLibrary]

/-- Any job that is not finished does its next step, or fails in it. -/
inductive StepIn (m : Type → Type) [Monad m] [FileSystem m] [FileSemantics m] (config : Config)
    : Running → Running → Prop where
  | job {files changed : FileTree} {before after : List Job} {job moved : Job}
    (unfinished : job.result? = none)
    (ends : Ends (job.advance config : m Job) files moved changed)
    : StepIn m config ⟨files, before ++ job :: after⟩ ⟨changed, before ++ moved :: after⟩

/-- The steps of the inputs in some order. -/
abbrev InterleavingIn (m : Type → Type) [Monad m] [FileSystem m] [FileSemantics m]
    (config : Config)
    : Running → Running → Prop :=
  Relation.ReflTransGen (StepIn m config)

variable {m : Type → Type} [Monad m] [FileSystem m] [FileSemantics m]
  {config : Config} {input : Path} {contents : String}
  {files start after : FileTree} {running next last : Running}

/-! ### What a step comes to -/

/-- The first step of an input changes nothing, and it succeeds only with what the file of the input is
rendered to. The second one writes at most the output of the input.
-/
inductive Attempts (config : Config) (files : FileTree) (input : Path)
    : Progress → Progress → FileTree → Prop where
  | failed {error : BatchError} (blames : error.input? = some input)
    : Attempts config files input .waiting (.finished (.error error)) files
  | rendered {contents : String} (read : contents? config files input = some contents)
    : Attempts config files input .waiting (.rendered contents) files
  | ended {contents : String} {result : Except BatchError RenderedFile}
    (blameless : ∀ error, result = .error error → error.input? = none)
    : Attempts config files input (.rendered contents) (.finished result) files
  | written {contents : String} {result : Except BatchError RenderedFile} {directory : Path}
    {content : ByteArray} {changed : FileTree}
    (blameless : ∀ error, result = .error error → error.input? = none)
    (set : config.outputDir = some directory)
    (wrote : files.write (outputPath input directory config.format) content = .ok changed)
    : Attempts config files input (.rendered contents) (.finished result) changed

/-- Reading and rendering an input changes nothing. It fails only by the input itself, and succeeds with
what the file of the input is rendered to.
-/
theorem renderInput_ends {result : Except BatchError String}
    (ends : Ends (renderInput config input : m _) files result after)
    : after = files
      ∧ (∀ error, result = .error error → error.input? = some input)
      ∧ ∀ contents, result = .ok contents → contents? config files input = some contents := by
  unfold renderInput at ends
  obtain ⟨text, between, attempt, ends⟩ := ends_bind.mp ends
  cases FileSemantics.read attempt with
  | failed cause =>
      obtain ⟨rfl, rfl⟩ := ends_pure.mp ends
      refine ⟨rfl, fun error known => ?_, nofun⟩
      cases known
      rfl
  | @done source given =>
      obtain ⟨rfl, rfl⟩ := ends_pure.mp ends
      refine ⟨rfl, fun error failure => input?_of_renderText failure, fun contents known => ?_⟩
      rw [contents?_eq_toOption, given]
      exact congrArg Except.toOption known

omit [Markdown.Reader] [SyntaxLibrary] in
/-- The second step of an input writes to its output or changes nothing, and its errors name no input. -/
theorem writeOutput_ends {result : Except BatchError RenderedFile}
    (ends : Ends (writeOutput config input contents : m _) files result after)
    : (∀ error, result = .error error → error.input? = none)
      ∧ (after = files
        ∨ ∃ directory content,
            config.outputDir = some directory
            ∧ files.write (outputPath input directory config.format) content = .ok after) := by
  unfold writeOutput at ends
  split at ends
  next =>
    obtain ⟨rfl, rfl⟩ := ends_pure.mp ends
    exact ⟨nofun, Or.inl rfl⟩
  next directory set =>
    obtain ⟨wrote, between, attempt, ends⟩ := ends_bind.mp ends
    cases write attempt with
    | done written =>
        obtain ⟨rfl, rfl⟩ := ends_pure.mp ends
        exact ⟨nofun, Or.inr ⟨directory, _, set, written⟩⟩
    | failed cause =>
        obtain ⟨rfl, rfl⟩ := ends_pure.mp ends
        refine ⟨fun error known => ?_, Or.inl rfl⟩
        cases known
        rfl
    | torn cause written =>
        obtain ⟨rfl, rfl⟩ := ends_pure.mp ends
        refine ⟨fun error known => ?_, Or.inr ⟨directory, _, set, written⟩⟩
        cases known
        rfl

/-- One step of a job is one of the things that an input can come to in a step. -/
theorem attempts_of_ends {job moved : Job} (unfinished : job.result? = none)
    (ends : Ends (job.advance config : m Job) files moved after)
    : moved.input = job.input ∧ Attempts config files job.input job.progress moved.progress after := by
  obtain ⟨input, progress⟩ := job
  cases progress with
  | finished result => cases unfinished
  | waiting =>
      unfold Job.advance at ends
      obtain ⟨result, between, rendered, ends⟩ := ends_bind.mp ends
      obtain ⟨rfl, blames, known⟩ := renderInput_ends rendered
      cases result with
      | error error =>
          obtain ⟨rfl, rfl⟩ := ends_pure.mp ends
          exact ⟨rfl, .failed (blames error rfl)⟩
      | ok contents =>
          obtain ⟨rfl, rfl⟩ := ends_pure.mp ends
          exact ⟨rfl, .rendered (known contents rfl)⟩
  | rendered contents =>
      unfold Job.advance at ends
      obtain ⟨result, between, wrote, ends⟩ := ends_bind.mp ends
      obtain ⟨rfl, rfl⟩ := ends_pure.mp ends
      refine ⟨rfl, ?_⟩
      obtain ⟨blameless, rfl | ⟨directory, content, set, written⟩⟩ := writeOutput_ends wrote
      · exact .ended blameless
      · exact .written blameless set written

/-- A step leaves the inputs as they are. -/
theorem StepIn.inputs (step : StepIn m config running next)
    : next.jobs.map (·.input) = running.jobs.map (·.input) := by
  cases step with
  | job unfinished ends =>
      rw [List.map_append, List.map_append, List.map_cons, List.map_cons,
        (attempts_of_ends unfinished ends).1]

/-! ### What all steps keep -/

/-- An input has been read and rendered, whatever became of it afterwards: only reading and rendering fail
with errors that name an input.
-/
def Job.HasRendered (job : Job) : Prop :=
  match job.progress with
  | .waiting => False
  | .rendered _ => True
  | .finished result => ∀ error, result = .error error → error.input? = none

/-- A place that a job may have written to: its input was read and rendered, from what there was at the
start, and is written there.
-/
structure Job.MayWrite (config : Config) (start : FileTree) (job : Job) (place : List String)
    : Prop where
  rendered : job.HasRendered
  readable : (Batch.contents? config start job.input).isSome = true
  output : OutputPlace config start job.input place

/-- What was read is what there was at the start, and no files are changed but the outputs of inputs that
were rendered.
-/
structure Contained (config : Config) (start : FileTree) (running : Running) : Prop where
  directories : start.SameDirectories running.files
  rendered
    : ∀ job ∈ running.jobs, ∀ contents,
        job.progress = .rendered contents
        → contents? config start job.input = some contents
  confined
    : start.Confined (fun place => ∃ job ∈ running.jobs, job.MayWrite config start place)
        running.files

/-- Before the first step nothing was read and no file is changed. -/
theorem contained_start (config : Config) (files : FileTree) (inputs : List Path)
    : Contained config files (.start files inputs) where
  directories := .refl files
  rendered := by
    intro job member contents known
    obtain ⟨input, _, rfl⟩ := List.mem_map.mp member
    cases known
  confined := .refl _ files

/-- A job that waits reads what its input had at the start: no other job has changed the file. -/
theorem Contained.contents? (stands : start.HereStands) {before after : List Job} {job : Job}
    (contained : Contained config start ⟨files, before ++ job :: after⟩)
    (separate
      : ∀ other ∈ before ++ job :: after, other ≠ job → Separate config job.input other.input)
    (waiting : ¬job.HasRendered)
    : contents? config files job.input = contents? config start job.input := by
  refine (contents?_congr stands contained.directories fun place found => ?_).symm
  refine (entry?_congr (contained.directories.directories place).symm ?_).symm
  apply contained.confined.untouched
  rintro ⟨other, member, wrote⟩
  refine (separate other member ?_).not_read found wrote.output
  rintro rfl
  exact waiting wrote.rendered

/-- A job that goes on without writing keeps a batch contained. -/
theorem Contained.replace {before after : List Job} {job moved : Job}
    (contained : Contained config start ⟨files, before ++ job :: after⟩)
    (same : moved.input = job.input) (advanced : job.HasRendered → moved.HasRendered)
    (rendered
      : ∀ contents, moved.progress = .rendered contents
        → Batch.contents? config start moved.input = some contents)
    : Contained config start ⟨files, before ++ moved :: after⟩ where
  directories := contained.directories
  rendered := forall_mem_replace contained.rendered rendered
  confined := by
    apply contained.confined.mono
    rintro place ⟨other, member, wrote⟩
    rcases List.mem_append.mp member with earlier | later
    · exact ⟨other, List.mem_append_left _ earlier, wrote⟩
    · rcases List.mem_cons.mp later with rfl | later
      · have moved' : moved.MayWrite config start place :=
          ⟨advanced wrote.rendered, same ▸ wrote.readable, same ▸ wrote.output⟩
        exact ⟨moved, List.mem_append_right _ List.mem_cons_self, moved'⟩
      · exact ⟨other, List.mem_append_right _ (List.mem_cons_of_mem _ later), wrote⟩

/-- What is written to the output of a rendered input, complete or not, keeps a batch contained. -/
theorem Contained.write {jobs : List Job} (contained : Contained config start ⟨files, jobs⟩)
    {job : Job} (member : job ∈ jobs) (rendered : job.HasRendered)
    (readable : (Batch.contents? config start job.input).isSome = true) {directory : Path}
    (set : config.outputDir = some directory) {content : ByteArray} {changed : FileTree}
    (wrote : files.write (outputPath job.input directory config.format) content = .ok changed)
    : Contained config start ⟨changed, jobs⟩ := by
  obtain ⟨place, found, free, rfl⟩ := write_eq_ok_iff.mp wrote
  have output : OutputPlace config start job.input place :=
    (outputPlace_congr contained.directories).mpr ⟨directory, set, found, free⟩
  refine ⟨?_, contained.rendered, contained.confined.trans ?_⟩
  · exact contained.directories.trans (sameDirectories_put found.ne_nil free content).symm
  · apply (confined_of_write wrote).mono
    intro other there
    rw [there.unique found]
    exact ⟨job, member, rendered, readable, output⟩

/-- Every step keeps a batch contained. -/
theorem StepIn.contained (stands : start.HereStands) (step : StepIn m config running next)
    (separate : (running.jobs.map (·.input)).Pairwise (Separate config))
    (contained : Contained config start running)
    : Contained config start next := by
  cases step with
  | @job files changed before after job moved unfinished ends =>
      have others := separate_others separate
      have now := contained.contents? stands others
      have here := contained.rendered job (List.mem_append_right _ List.mem_cons_self)
      obtain ⟨input, progress⟩ := job
      obtain ⟨input', progress'⟩ := moved
      obtain ⟨rfl, attempts⟩ := attempts_of_ends unfinished ends
      cases attempts with
      | failed => exact contained.replace rfl False.elim nofun
      | rendered read =>
          refine contained.replace rfl False.elim fun contents known => ?_
          cases known
          exact (now id).symm.trans read
      | ended blameless => exact contained.replace rfl (fun _ => blameless) nofun
      | @written contents result directory content changed blameless set wrote =>
          have replaced
              : Contained config start ⟨files, before ++ ⟨input', .finished result⟩ :: after⟩ :=
            contained.replace rfl (fun _ => blameless) nofun
          have readable := Option.isSome_of_eq_some (here contents rfl)
          exact replaced.write (List.mem_append_right _ List.mem_cons_self) blameless readable set
            wrote

/-- All that can be reached from the start is contained, and has the jobs in the order of the inputs. -/
theorem InterleavingIn.contained {inputs : List Path} (stands : start.HereStands)
    (accepted : Accepted config inputs)
    (reached : InterleavingIn m config (.start start inputs) last)
    : Contained config start last ∧ last.jobs.map (·.input) = inputs := by
  induction reached with
  | refl =>
      refine ⟨contained_start config start inputs, ?_⟩
      unfold Running.start
      rw [List.map_map]
      exact List.map_id inputs
  | tail _ step ih =>
      obtain ⟨contained, listed⟩ := ih
      refine ⟨step.contained stands ?_ contained, step.inputs.trans listed⟩
      rw [listed]
      exact accepted_iff_pairwise.mp accepted

/-! ### One input after another -/

/-- Both steps of an input may come directly after each other. -/
theorem interleavingIn_process {before rest : List Job} {result : Except BatchError RenderedFile}
    (ends : Ends (process config input : m _) files result after)
    : InterleavingIn m config ⟨files, before ++ ⟨input, .waiting⟩ :: rest⟩
        ⟨after, before ++ ⟨input, .finished result⟩ :: rest⟩ := by
  unfold process at ends
  obtain ⟨rendered, between, first, ends⟩ := ends_bind.mp ends
  cases rendered with
  | error error =>
      obtain ⟨rfl, rfl⟩ := ends_pure.mp ends
      have step : Ends (Job.advance config ⟨input, .waiting⟩ : m Job) files
          ⟨input, .finished (.error error)⟩ after := by
        unfold Job.advance
        exact ends_bind.mpr ⟨.error error, after, first, ends_pure.mpr ⟨rfl, rfl⟩⟩
      exact .single (.job rfl step)
  | ok contents =>
      have step : Ends (Job.advance config ⟨input, .waiting⟩ : m Job) files
          ⟨input, .rendered contents⟩ between := by
        unfold Job.advance
        exact ends_bind.mpr ⟨.ok contents, between, first, ends_pure.mpr ⟨rfl, rfl⟩⟩
      have last : Ends (Job.advance config ⟨input, .rendered contents⟩ : m Job) between
          ⟨input, .finished result⟩ after := by
        unfold Job.advance
        exact ends_bind.mpr ⟨result, after, ends, ends_pure.mpr ⟨rfl, rfl⟩⟩
      exact .head (.job rfl step) (.single (.job rfl last))

/-- Processing the inputs one after another is one of the orders. By induction on the inputs, with the
jobs of the inputs before them done.
-/
theorem interleavingIn_mapM {inputs : List Path} {results : List (Except BatchError RenderedFile)}
    (ends : Ends (inputs.mapM (process config) : m _) files results after) (done : List Job)
    : ∃ jobs, InterleavingIn m config ⟨files, done ++ inputs.map fun input => ⟨input, .waiting⟩⟩
        ⟨after, done ++ jobs⟩ := by
  induction inputs generalizing files results done with
  | nil =>
      obtain ⟨_, rfl⟩ := ends_pure.mp ends
      exact ⟨[], .refl⟩
  | cons input rest ih =>
      obtain ⟨result, between, later, here, there, rfl⟩ := ends_mapM_cons.mp ends
      obtain ⟨jobs, reached⟩ := ih there (done ++ [⟨input, .finished result⟩])
      refine ⟨⟨input, .finished result⟩ :: jobs, ?_⟩
      rw [List.append_assoc, List.append_assoc] at reached
      exact (interleavingIn_process here).trans reached

end Docpress.Batch
