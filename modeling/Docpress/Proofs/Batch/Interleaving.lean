import Mathlib.Data.List.Perm.Basic
import Mathlib.Logic.Relation
import Docpress.Proofs.Batch.Steps

/-!
Batches whose inputs are processed at the same time. The steps of the inputs interleave in any order;
what comes out is the same in all of them, because no step touches a file that another input reads or
writes.
-/

namespace Docpress.Batch

open FileTree

variable [Markdown.Reader] [SyntaxLibrary]

/-- How far an input has come. -/
inductive Progress where
  | waiting
  | rendered (contents : String)
  | finished (result : Except BatchError RenderedFile)

/-- An input of a batch with its progress. -/
structure Job where
  input : Path
  progress : Progress

namespace Job

/-- The result of a job that is finished. -/
def result? (job : Job) : Option (Except BatchError RenderedFile) :=
  match job.progress with
  | .finished result => some result
  | _ => none

/-- The next step of a job. -/
def advance {m : Type → Type} [Monad m] [FileSystem m] (config : Config) (job : Job) : m Job := do
  match job.progress with
  | .waiting =>
    match ← renderInput config job.input with
    | .error error => return { job with progress := .finished (.error error) }
    | .ok contents => return { job with progress := .rendered contents }
  | .rendered contents =>
    return { job with progress := .finished (← writeOutput config job.input contents) }
  | .finished _ => return job

/-- A job is where it would be if its input were processed alone. -/
def Agrees (config : Config) (tree : FileTree) (job : Job) : Prop :=
  match job.progress with
  | .waiting => True
  | .rendered contents => contents? config tree job.input = some contents
  | .finished result => result.toOption = outcome? config tree job.input

/-- A job has finished with a file, whose contents it wrote to a place. -/
def Wrote (config : Config) (tree : FileTree) (job : Job) (file : RenderedFile) (place : List String)
    : Prop :=
  job.result? = some (.ok file) ∧ OutputPlace config tree job.input place

end Job

/-- A batch under way: the files as they are at present, and a job for every input. -/
structure Running where
  files : FileTree
  jobs : List Job

namespace Running

/-- A batch of which no step is done. -/
def start (files : FileTree) (inputs : List Path) : Running where
  files := files
  jobs := inputs.map fun input => ⟨input, .waiting⟩

/-- All jobs are finished. -/
def Complete (running : Running) : Prop :=
  ∀ job ∈ running.jobs, job.result?.isSome = true

/-- The results of the jobs that are finished, in the order of the inputs. -/
def results (running : Running) : List (Except BatchError RenderedFile) :=
  running.jobs.filterMap Job.result?

end Running

/-- Any job that is not finished does its next step. -/
inductive Step (config : Config) : Running → Running → Prop where
  | job {files changed : FileTree} {before after : List Job} {job moved : Job}
    (unfinished : job.result? = none)
    (moves : (job.advance config : StateM FileTree _).run files = (moved, changed))
    : Step config ⟨files, before ++ job :: after⟩ ⟨changed, before ++ moved :: after⟩

/-- The steps of the inputs in some order. -/
abbrev Interleaving (config : Config) : Running → Running → Prop :=
  Relation.ReflTransGen (Step config)

/-! ### What a step does -/

variable {config : Config} {files : FileTree} {running next : Running}

/-- A step of a job either is the first one of two, or its last one with a result. It changes the files
only where the job succeeds in writing its output.
-/
inductive Moves (config : Config) (files : FileTree) (input : Path)
    : Progress → Progress → FileTree → Prop where
  | unreadable {error : BatchError} (nothing : contents? config files input = none)
    : Moves config files input .waiting (.finished (.error error)) files
  | readable {contents : String} (read : contents? config files input = some contents)
    : Moves config files input .waiting (.rendered contents) files
  | written {contents : String} {result : Except BatchError RenderedFile} {changed : FileTree}
    (writes : Writes config files input contents result changed)
    : Moves config files input (.rendered contents) (.finished result) changed

/-- One step of a job is one of the moves that its input has. -/
theorem advance_run {input : Path} {progress : Progress} {moved : Job} {changed : FileTree}
    (unfinished : (Job.mk input progress).result? = none)
    (moves : ((Job.mk input progress).advance config : StateM FileTree _).run files = (moved, changed))
    : moved.input = input ∧ Moves config files input progress moved.progress changed := by
  cases progress with
  | finished result => cases unfinished
  | rendered contents =>
      have ran := writeOutput_run config input contents files
      cases moves
      exact ⟨rfl, .written ran⟩
  | waiting =>
      unfold Job.advance at moves
      dsimp only at moves
      rw [StateT.run_bind, renderInput_run] at moves
      have known := contents?_eq_toOption config files input
      cases step : (files.readText input).mapError (BatchError.unreadable input)
          >>= renderText config input with
      | error error =>
          rw [step] at moves known
          cases moves
          exact ⟨rfl, .unreadable known⟩
      | ok contents =>
          rw [step] at moves known
          cases moves
          exact ⟨rfl, .readable known⟩

/-- A step leaves the inputs as they are. -/
theorem Step.inputs (step : Step config running next)
    : next.jobs.map (·.input) = running.jobs.map (·.input) := by
  cases step with
  | job unfinished moves =>
      rw [List.map_append, List.map_append, List.map_cons, List.map_cons,
        (advance_run unfinished moves).1]

/-- How many steps a job has before it at most. -/
def Job.remaining (job : Job) : Nat :=
  match job.progress with
  | .waiting => 2
  | .rendered _ => 1
  | .finished _ => 0

/-- How many steps some jobs have before them at most. -/
def Job.remainingAll : List Job → Nat
  | [] => 0
  | job :: rest => job.remaining + remainingAll rest

/-- How many steps a batch has before it at most. -/
def Running.remaining (running : Running) : Nat :=
  Job.remainingAll running.jobs

omit [Markdown.Reader] [SyntaxLibrary] in
/-- The steps that remain for two lists of jobs add up. -/
theorem Job.remainingAll_append (jobs more : List Job)
    : Job.remainingAll (jobs ++ more) = Job.remainingAll jobs + Job.remainingAll more := by
  induction jobs with
  | nil => exact (Nat.zero_add _).symm
  | cons job rest ih => rw [List.cons_append, remainingAll, remainingAll, ih, Nat.add_assoc]

/-- No batch goes on forever: with every step less remains to be done. -/
theorem Step.remaining_lt (step : Step config running next) : next.remaining < running.remaining := by
  cases step with
  | @job files changed before after job moved unfinished moves =>
      have less : moved.remaining < job.remaining := by
        obtain ⟨input, progress⟩ := job
        obtain ⟨input', progress'⟩ := moved
        obtain ⟨rfl, does⟩ := advance_run unfinished moves
        unfold Job.remaining
        cases does with
        | unreadable => exact Nat.zero_lt_two
        | readable => exact Nat.one_lt_two
        | written => exact Nat.zero_lt_one
      simp only [Running.remaining, Job.remainingAll_append, Job.remainingAll]
      omega

/-- No batch gets stuck: its steps can go on until all jobs are finished. -/
theorem exists_complete (config : Config) (running : Running)
    : ∃ last, Interleaving config running last ∧ last.Complete := by
  by_cases complete : running.Complete
  · exact ⟨running, .refl, complete⟩
  · obtain ⟨job, member, unfinished⟩ : ∃ job ∈ running.jobs, ¬job.result?.isSome = true := by
      unfold Running.Complete at complete
      simpa only [not_forall, exists_prop] using complete
    obtain ⟨before, after, jobs⟩ := List.append_of_mem member
    obtain ⟨files, listed⟩ := running
    subst jobs
    have step : Step config ⟨files, before ++ job :: after⟩
        ⟨((job.advance config : StateM FileTree _).run files).2,
          before ++ ((job.advance config : StateM FileTree _).run files).1 :: after⟩ :=
      .job (by simpa using unfinished) rfl
    have less := step.remaining_lt
    obtain ⟨last, further, complete⟩ := exists_complete config
      ⟨((job.advance config : StateM FileTree _).run files).2,
        before ++ ((job.advance config : StateM FileTree _).run files).1 :: after⟩
    exact ⟨last, .head step further, complete⟩
termination_by running.remaining

/-- The batch after the job in a position does its next step, if it has one. -/
def Running.advanceAt (config : Config) (running : Running) (index : Nat) : Running :=
  match running.jobs[index]? with
  | none => running
  | some job =>
    let (moved, changed) := (job.advance config : StateM FileTree _).run running.files
    ⟨changed, running.jobs.set index moved⟩

/-- Letting the job in a position do its next step, if it has one, is an interleaving. -/
theorem interleaving_advanceAt (config : Config) (running : Running) (index : Nat)
    : Interleaving config running (running.advanceAt config index) := by
  obtain ⟨files, jobs⟩ := running
  unfold Running.advanceAt
  split
  next => exact .refl
  next job found =>
    dsimp only at found
    cases ran : (job.advance config : StateM FileTree _).run files with
    | mk moved changed =>
        obtain ⟨inside, here⟩ := List.getElem?_eq_some_iff.mp found
        obtain ⟨before, after, listed, _, replaced⟩ : ∃ before after, jobs = before ++ job :: after
            ∧ before.length = index ∧ jobs.set index moved = before ++ moved :: after :=
          here ▸ List.exists_of_set inside
        dsimp only
        rw [replaced, listed]
        cases result : job.result? with
        | none => exact .single (.job result ran)
        | some finished =>
            -- A job that is finished has no step left, and the batch stays as it is.
            have still : (job.advance config : StateM FileTree _).run files = (job, files) := by
              obtain ⟨input, progress⟩ := job
              cases progress with
              | finished => rfl
              | waiting => cases result
              | rendered => cases result
            cases still.symm.trans ran
            exact .refl

/-- Any list of positions is a schedule of steps. -/
theorem interleaving_schedule (config : Config) (running : Running) (positions : List Nat)
    : Interleaving config running (positions.foldl (Running.advanceAt config) running) := by
  induction positions generalizing running with
  | nil => exact .refl
  | cons index rest ih => exact (interleaving_advanceAt config running index).trans (ih _)

/-! ### What all steps keep -/

/-- A batch under way stands to the files it started from as if every input were processed alone: each
job is where it would be, the outputs of the jobs that succeeded have their contents, and all other places
have what they had.
-/
structure Faithful (config : Config) (start : FileTree) (running : Running) : Prop where
  directories : start.SameDirectories running.files
  agrees : ∀ job ∈ running.jobs, job.Agrees config start
  written
    : ∀ job ∈ running.jobs, ∀ file place, job.Wrote config start file place
      → running.files.entry? place = some (.file file.contents.toUTF8)
  untouched
    : ∀ place, (∀ job ∈ running.jobs, ∀ file, ¬job.Wrote config start file place)
      → running.files.entry? place = start.entry? place

omit [Markdown.Reader] [SyntaxLibrary] in
/-- A job that is not finished has written nothing. -/
theorem Job.not_wrote {job : Job} (unfinished : job.result? = none) (start : FileTree)
    (file : RenderedFile) (place : List String)
    : ¬job.Wrote config start file place := by
  rintro ⟨finished, _⟩
  rw [unfinished] at finished
  cases finished

/-- Before the first step every job is where it would be alone, and no file is changed. -/
theorem faithful_start (config : Config) (files : FileTree) (inputs : List Path)
    : Faithful config files (.start files inputs) where
  directories := .refl files
  agrees := by
    intro job member
    obtain ⟨input, _, rfl⟩ := List.mem_map.mp member
    trivial
  written := by
    intro job member file place wrote
    obtain ⟨input, _, rfl⟩ := List.mem_map.mp member
    cases wrote.1
  untouched _ _ := rfl

omit [Markdown.Reader] [SyntaxLibrary] in
/-- What holds of all jobs still does when one of them is replaced by one of which it holds. -/
theorem forall_mem_replace {holds : Job → Prop} {before after : List Job} {job moved : Job}
    (all : ∀ other ∈ before ++ job :: after, holds other) (here : holds moved)
    : ∀ other ∈ before ++ moved :: after, holds other := by
  intro other member
  rcases List.mem_append.mp member with earlier | later
  · exact all other (List.mem_append_left _ earlier)
  · rcases List.mem_cons.mp later with rfl | later
    · exact here
    · exact all other (List.mem_append_right _ (List.mem_cons_of_mem _ later))

omit [Markdown.Reader] [SyntaxLibrary] in
/-- The other jobs are separate from each one. -/
theorem separate_others {before after : List Job} {job : Job}
    (separate : ((before ++ job :: after).map (·.input)).Pairwise (Separate config))
    : ∀ other ∈ before ++ job :: after, other ≠ job → Separate config job.input other.input := by
  intro other member different
  rw [List.pairwise_map, List.pairwise_append, List.pairwise_cons] at separate
  obtain ⟨_, ⟨later, _⟩, across⟩ := separate
  rcases List.mem_append.mp member with before | here
  · exact (across other before job List.mem_cons_self).symm
  · rcases List.mem_cons.mp here with same | after
    · exact absurd same different
    · exact later other after

/-- A step that leaves the files keeps a batch faithful. -/
theorem Faithful.replace {start : FileTree} {before after : List Job} {job moved : Job}
    (faithful : Faithful config start ⟨files, before ++ job :: after⟩)
    (unfinished : job.result? = none) (agrees : moved.Agrees config start)
    (nothing : ∀ file place, ¬moved.Wrote config start file place)
    : Faithful config start ⟨files, before ++ moved :: after⟩ where
  directories := faithful.directories
  agrees := forall_mem_replace faithful.agrees agrees
  written := by
    refine forall_mem_replace faithful.written ?_
    intro file place wrote
    exact absurd wrote (nothing file place)
  untouched := by
    intro place untouched
    refine faithful.untouched place ?_
    refine forall_mem_replace untouched ?_
    intro file
    exact job.not_wrote unfinished start file place

/-- A step that writes the output of a job keeps a batch faithful, if the other jobs are separate. -/
theorem Faithful.put {start : FileTree} {before after : List Job} {job moved : Job}
    (faithful : Faithful config start ⟨files, before ++ job :: after⟩)
    (separate : ∀ other ∈ before ++ job :: after, other ≠ job → Separate config job.input other.input)
    (unfinished : job.result? = none) (agrees : moved.Agrees config start)
    (same : moved.input = job.input) {file : RenderedFile} {place : List String}
    (wrote : moved.Wrote config start file place)
    : Faithful config start
        ⟨files.put place (.file file.contents.toUTF8), before ++ moved :: after⟩ := by
  obtain ⟨finished, output⟩ := wrote
  have deep : place ≠ [] := by
    obtain ⟨_, _, found, _⟩ := output
    exact found.ne_nil
  have free : files.holdsDirectory place = false := by
    obtain ⟨_, _, _, free⟩ := output
    rwa [← faithful.directories.directories]
  refine ⟨faithful.directories.trans (sameDirectories_put deep free _).symm,
    forall_mem_replace faithful.agrees agrees, ?_, ?_⟩
  · -- The others keep what they wrote, because their outputs are in other places.
    have others : ∀ other ∈ before ++ job :: after, ∀ written there,
        other.Wrote config start written there
        → FileTree.entry? (files.put place (.file file.contents.toUTF8)) there
          = some (.file written.contents.toUTF8) := by
      intro other member written there wrote
      have different : other ≠ job := by
        rintro rfl
        exact other.not_wrote unfinished start written there wrote
      rw [entry?_put files deep, if_neg]
      · exact faithful.written other member written there wrote
      · rintro rfl
        exact (separate other member different).not_written (same ▸ output) wrote.2
    refine forall_mem_replace others ?_
    rintro written there ⟨done, here⟩
    cases finished.symm.trans done
    rw [here.unique output, entry?_put files deep, if_pos rfl]
  · intro there untouched
    -- A place in which nobody wrote is not the one that is written now.
    have apart : there ≠ place := by
      rintro rfl
      exact untouched moved (List.mem_append_right _ List.mem_cons_self) file ⟨finished, output⟩
    rw [entry?_put files deep, if_neg apart]
    refine faithful.untouched there (forall_mem_replace untouched ?_)
    intro file
    exact job.not_wrote unfinished start file there

/-- A job that is not finished reads what its input had at the start: no other job has changed the file.
-/
theorem Faithful.contents? {start : FileTree} (stands : start.HereStands) {before after : List Job}
    {job : Job} (faithful : Faithful config start ⟨files, before ++ job :: after⟩)
    (separate : ∀ other ∈ before ++ job :: after, other ≠ job → Separate config job.input other.input)
    (unfinished : job.result? = none)
    : contents? config files job.input = contents? config start job.input := by
  refine (contents?_congr stands faithful.directories fun place found => ?_).symm
  refine (faithful.untouched place ?_).symm
  intro other member file wrote
  refine (separate other member ?_).not_read found wrote.2
  rintro rfl
  exact other.not_wrote unfinished start file place wrote

/-- Every step keeps a batch faithful. -/
theorem Step.faithful {start : FileTree} (stands : start.HereStands) (step : Step config running next)
    (separate : (running.jobs.map (·.input)).Pairwise (Separate config))
    (faithful : Faithful config start running)
    : Faithful config start next := by
  cases step with
  | @job files changed before after job moved unfinished moves =>
      have others := separate_others separate
      have now := faithful.contents? stands others unfinished
      have here := faithful.agrees job (List.mem_append_right _ List.mem_cons_self)
      -- What the input comes to at present is what it would come to at the start.
      obtain ⟨input, progress⟩ := job
      obtain ⟨input', progress'⟩ := moved
      obtain ⟨rfl, does⟩ := advance_run unfinished moves
      cases does with
      | unreadable nothing =>
          refine faithful.replace unfinished ?_ (by rintro file place ⟨⟨⟩, _⟩)
          change none = outcome? config start _
          rw [outcome?_eq_bind, ← now, nothing, Option.bind_none]
      | readable read =>
          exact faithful.replace unfinished (now.symm.trans read) (by rintro file place ⟨⟨⟩, _⟩)
      | @written contents result changed writes =>
          dsimp only at writes
          have alone : Job.Agrees config start ⟨input', .finished result⟩ := by
            change result.toOption = outcome? config start input'
            rw [outcome?_eq_bind, here, Option.bind_some]
            exact writes.toOption_congr faithful.directories.symm
              (writeOutput_run config input' contents start)
          -- Only a job that has its output written changes a file, and only that one.
          cases writes with
          | nowhere unset =>
              refine faithful.replace unfinished alone ?_
              rintro file place ⟨_, directory, set, _⟩
              cases unset.symm.trans set
          | placed set output =>
              have here := (outputPlace_congr faithful.directories).mpr output
              exact faithful.put others unfinished alone rfl ⟨rfl, here⟩
          | failed set closed =>
              exact faithful.replace unfinished alone (by rintro file place ⟨⟨⟩, _⟩)

/-- All that can be reached from the start is faithful, and has the jobs in the order of the inputs. -/
theorem Interleaving.faithful {start : FileTree} {inputs : List Path} {last : Running}
    (stands : start.HereStands) (accepted : Accepted config inputs)
    (reached : Interleaving config (.start start inputs) last)
    : Faithful config start last ∧ last.jobs.map (·.input) = inputs := by
  induction reached with
  | refl =>
      refine ⟨faithful_start config start inputs, ?_⟩
      unfold Running.start
      rw [List.map_map]
      exact List.map_id inputs
  | tail _ step ih =>
      obtain ⟨faithful, listed⟩ := ih
      refine ⟨step.faithful stands ?_ faithful, step.inputs.trans listed⟩
      rw [listed]
      exact accepted_iff_pairwise.mp accepted

end Docpress.Batch
