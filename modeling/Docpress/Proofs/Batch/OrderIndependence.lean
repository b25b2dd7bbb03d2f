import Docpress.Highlight.PlainText
import Docpress.Markdown
import Docpress.Proofs.Batch.Interleaving

/-!
Batches do not depend on the order in which the steps of their inputs are done. When all jobs are
finished, files and results are those of processing every input alone on the files from the start, and
processing the inputs one after another is one of the orders.
-/

namespace Docpress.Batch

open FileTree

section

variable [Markdown.Reader] [SyntaxLibrary] {config : Config} {start files : FileTree}
  {last : Running} {inputs : List Path}

/-- The inputs that failed, each with its error, in the order of the inputs. -/
def failures (inputs : List Path) (results : List (Except BatchError RenderedFile))
    : List (Path × BatchError) :=
  (inputs.zip results).filterMap fun
    | (_, .ok _) => none
    | (input, .error error) => some (input, error)

/-- The results and the files after all inputs are processed one after another. -/
def inOrder (config : Config) (inputs : List Path) (files : FileTree)
    : List (Except BatchError RenderedFile) × FileTree :=
  (inputs.mapM (process config) : StateM FileTree _).run files

/-- What came out of a batch is what comes out when the inputs are processed one after another. -/
structure OrderIndependent (config : Config) (inputs : List Path) (files : FileTree) (last : Running)
    : Prop where
  contents : last.files.SameEntries (inOrder config inputs files).2
  rendered
    : (BatchReport.ofResults last.results).rendered
      = (BatchReport.ofResults (inOrder config inputs files).1).rendered
  /-- The same inputs fail. The file error may differ: a path that leads through the output of another
  input meets a file there, or nothing yet.
  -/
  failed
    : (failures inputs last.results).map (·.1)
      = (failures inputs (inOrder config inputs files).1).map (·.1)
  /-- The failures that the report lists are those of the failed inputs. -/
  errors : (failures inputs last.results).map (·.2) = (BatchReport.ofResults last.results).failed
  renderedInOrder : ((BatchReport.ofResults last.results).rendered.map (·.input)).Sublist inputs
  failedInOrder : ((failures inputs last.results).map (·.1)).Sublist inputs
  /-- Every input is rendered or failed, exactly once. -/
  once
    : ((BatchReport.ofResults last.results).rendered.map (·.input)
        ++ (failures inputs last.results).map (·.1)).Perm inputs
  /-- Every output that the report lists reads as the contents beside it. -/
  written
    : ∀ file ∈ (BatchReport.ofResults last.results).rendered, ∀ output, file.output = some output
      → last.files.readText output = .ok file.contents
  /-- Everything else is as it was. -/
  kept
    : ∀ place,
      (∀ file ∈ (BatchReport.ofResults last.results).rendered, ∀ output, file.output = some output
        → ¬files.FilePlace output place)
      → last.files.entry? place = files.entry? place
  /-- No input makes a difference to another one. -/
  alone : last.results.map Except.toOption = inputs.map (outcome? config files)
  /-- Processing the inputs one after another is what the program does once it is prepared. -/
  run
    : ∀ before, (prepare config inputs : StateM FileTree _).run before = (.ok (), files)
      → (Batch.run config inputs : StateM FileTree _).run before
        = (.ok (.ofResults (inOrder config inputs files).1), (inOrder config inputs files).2)

/-! ### Finished batches -/

/-- The files are those from the start but for the outputs of the inputs that are rendered when they are
processed alone.
-/
structure Settled (config : Config) (start : FileTree) (inputs : List Path) (files : FileTree)
    : Prop where
  directories : start.SameDirectories files
  written
    : ∀ input ∈ inputs, ∀ file, outcome? config start input = some file
      → ∀ place, OutputPlace config start input place
      → files.entry? place = some (.file file.contents.toUTF8)
  untouched
    : ∀ place,
      (∀ input ∈ inputs, ∀ file, outcome? config start input = some file
        → ¬OutputPlace config start input place)
      → files.entry? place = start.entry? place

/-- At most one tree is settled. -/
theorem Settled.sameEntries {first second : FileTree} (left : Settled config start inputs first)
    (right : Settled config start inputs second)
    : first.SameEntries second where
  here := left.directories.here.symm.trans right.directories.here
  entries place := by
    by_cases output : ∃ input ∈ inputs, ∃ file, outcome? config start input = some file
        ∧ OutputPlace config start input place
    · obtain ⟨input, member, file, rendered, there⟩ := output
      rw [left.written input member file rendered place there,
        right.written input member file rendered place there]
    · have nothing : ∀ input ∈ inputs, ∀ file, outcome? config start input = some file
          → ¬OutputPlace config start input place :=
        fun input member file rendered there => output ⟨input, member, file, rendered, there⟩
      rw [left.untouched place nothing, right.untouched place nothing]

/-- The outputs read as the contents that were written to them. -/
theorem Settled.readText_eq_ok (settled : Settled config start inputs files) {input : Path}
    (member : input ∈ inputs) {file : RenderedFile}
    (rendered : outcome? config start input = some file) {output : Path}
    (named : file.output = some output)
    : files.readText output = .ok file.contents := by
  obtain ⟨_, ⟨_, nowhere⟩ | ⟨directory, place, set, known, there⟩⟩ := outcome?_spec rendered
  · cases nowhere.symm.trans named
  · cases known.symm.trans named
    exact (settled.directories.filePlace (there.filePlace set)).readText
      (settled.written input member file rendered place there)

/-- Where no output is named nothing changes. -/
theorem Settled.entry?_eq (settled : Settled config start inputs files) {place : List String}
    (apart : ∀ input ∈ inputs, ∀ file, outcome? config start input = some file
      → ∀ output, file.output = some output → ¬start.FilePlace output place)
    : files.entry? place = start.entry? place := by
  refine settled.untouched place fun input member file rendered there => ?_
  obtain ⟨_, ⟨unset, _⟩ | ⟨directory, _, set, known, _⟩⟩ := outcome?_spec rendered
  · obtain ⟨_, set, _⟩ := there
    cases unset.symm.trans set
  · exact apart input member file rendered _ known (there.filePlace set)

/-- A finished job has the outcome of its input. -/
theorem Job.result_of_finished {job : Job} (agrees : job.Agrees config start)
    (finished : job.result?.isSome = true)
    : ∃ result, job.result? = some result ∧ result.toOption = outcome? config start job.input := by
  obtain ⟨input, progress⟩ := job
  cases progress with
  | finished result => exact ⟨result, rfl, agrees⟩
  | waiting => cases finished
  | rendered contents => cases finished

/-- A finished job has a file just if its input alone would give this file. -/
theorem Job.result?_eq_ok_iff {job : Job} (agrees : job.Agrees config start)
    (finished : job.result?.isSome = true) {file : RenderedFile}
    : job.result? = some (.ok file) ↔ outcome? config start job.input = some file := by
  obtain ⟨result, known, same⟩ := job.result_of_finished agrees finished
  rw [known, ← same]
  cases result with
  | ok file => simp only [Option.some.injEq, Except.ok.injEq, Except.toOption]
  | error error => simp only [Option.some.injEq, reduceCtorEq, Except.toOption]

/-- A batch in which every job is finished has come to what its inputs say, and its files have settled.
-/
theorem Faithful.settled (faithful : Faithful config start last) (complete : last.Complete)
    : Settled config start (last.jobs.map (·.input)) last.files where
  directories := faithful.directories
  written input member file rendered := by
    intro place output
    obtain ⟨job, listed, rfl⟩ := List.mem_map.mp member
    have result := (job.result?_eq_ok_iff (faithful.agrees job listed) (complete job listed)).mpr rendered
    exact faithful.written job listed file place ⟨result, output⟩
  untouched place nothing := by
    refine faithful.untouched place ?_
    rintro job listed file ⟨result, output⟩
    have rendered := (job.result?_eq_ok_iff (faithful.agrees job listed) (complete job listed)).mp result
    exact nothing job.input (List.mem_map_of_mem listed) file rendered output

/-- A batch in which every job is finished has the results that its inputs would have alone. -/
theorem Faithful.results (faithful : Faithful config start last) (complete : last.Complete)
    : last.results.map Except.toOption = (last.jobs.map (·.input)).map (outcome? config start) := by
  obtain ⟨files, jobs⟩ := last
  have agrees := faithful.agrees
  unfold Running.results Running.Complete at *
  dsimp only at *
  clear faithful
  induction jobs with
  | nil => rfl
  | cons job rest ih =>
      rw [List.forall_mem_cons] at agrees complete
      obtain ⟨result, known, same⟩ := job.result_of_finished agrees.1 complete.1
      rw [List.filterMap_cons_some known, List.map_cons, List.map_cons, List.map_cons, same,
        ih complete.2 agrees.2]

/-! ### Reports -/

omit [Markdown.Reader] [SyntaxLibrary] in
/-- The rendered files of a report are those of the inputs that would be rendered alone. -/
theorem rendered_eq_filterMap {outcome : Path → Option RenderedFile}
    {results : List (Except BatchError RenderedFile)}
    (same : results.map Except.toOption = inputs.map outcome)
    : (BatchReport.ofResults results).rendered = inputs.filterMap outcome := by
  have known : inputs.filterMap outcome = (inputs.map outcome).filterMap id := by
    rw [List.filterMap_map]
    rfl
  rw [known, ← same, List.filterMap_map]
  unfold BatchReport.ofResults
  refine List.filterMap_congr fun result _ => ?_
  cases result <;> rfl

omit [Markdown.Reader] [SyntaxLibrary] in
/-- The rendered inputs are those with an outcome. -/
theorem rendered_map_input {outcome : Path → Option RenderedFile}
    {results : List (Except BatchError RenderedFile)}
    (same : results.map Except.toOption = inputs.map outcome)
    (named : ∀ input file, outcome input = some file → file.input = input)
    : (BatchReport.ofResults results).rendered.map (·.input)
      = inputs.filter fun input => (outcome input).isSome := by
  rw [rendered_eq_filterMap same]
  clear same
  induction inputs with
  | nil => rfl
  | cons input rest ih =>
      rw [List.filterMap_cons, List.filter_cons]
      cases here : outcome input with
      | none => exact ih
      | some file => exact congrArg₂ List.cons (named input file here) ih

omit [Markdown.Reader] [SyntaxLibrary] in
/-- The failed inputs are the other ones. -/
theorem failures_map_fst {outcome : Path → Option RenderedFile}
    {results : List (Except BatchError RenderedFile)}
    (same : results.map Except.toOption = inputs.map outcome)
    : (failures inputs results).map (·.1) = inputs.filter fun input => !(outcome input).isSome := by
  induction inputs generalizing results with
  | nil => rfl
  | cons input rest ih =>
      obtain ⟨result, others, rfl, here, there⟩ := List.map_eq_cons_iff.mp same
      rw [List.filter_cons, ← here, ← ih there]
      cases result <;> rfl

omit [Markdown.Reader] [SyntaxLibrary] in
/-- The failures of a report are its errors, each beside its input. -/
theorem failures_map_snd {results : List (Except BatchError RenderedFile)}
    (lengths : results.length = inputs.length)
    : (failures inputs results).map (·.2) = (BatchReport.ofResults results).failed := by
  have second : (inputs.zip results).map (·.2) = results := List.map_snd_zip (Nat.le_of_eq lengths)
  unfold failures BatchReport.ofResults
  dsimp only
  rw [List.map_filterMap]
  conv => rhs; rw [← second, List.filterMap_map]
  refine List.filterMap_congr fun pair _ => ?_
  obtain ⟨input, result⟩ := pair
  cases result <;> rfl

/-! ### One input after another -/

/-- Both steps of an input may come directly after each other. -/
theorem interleaving_process (config : Config) (files : FileTree) (input : Path)
    (before after : List Job)
    : Interleaving config ⟨files, before ++ ⟨input, .waiting⟩ :: after⟩
        ⟨((process config input : StateM FileTree _).run files).2,
          before ++ ⟨input, .finished ((process config input : StateM FileTree _).run files).1⟩
            :: after⟩ := by
  have first : (Job.advance config ⟨input, .waiting⟩ : StateM FileTree _).run files
      = match (files.readText input).mapError (BatchError.unreadable input)
            >>= renderText config input with
        | .ok contents => (⟨input, .rendered contents⟩, files)
        | .error error => (⟨input, .finished (.error error)⟩, files) := by
    unfold Job.advance
    dsimp only
    rw [StateT.run_bind, renderInput_run]
    cases (files.readText input).mapError (BatchError.unreadable input)
      >>= renderText config input <;> rfl
  unfold process
  rw [StateT.run_bind, renderInput_run]
  cases step : (files.readText input).mapError (BatchError.unreadable input)
      >>= renderText config input with
  | error error =>
      rw [step] at first
      exact .single (.job rfl first)
  | ok contents =>
      rw [step] at first
      exact .head (.job rfl first) (.single (.job rfl rfl))

/-- Processing the inputs one after another is one of the orders. By induction on the inputs, with the
jobs of the inputs before them done.
-/
theorem interleaving_inOrder (config : Config) (inputs : List Path) (files : FileTree)
    (done : List Job)
    : ∃ jobs : List Job, (∀ job ∈ jobs, job.result?.isSome = true)
      ∧ jobs.filterMap Job.result? = (inOrder config inputs files).1
      ∧ Interleaving config ⟨files, done ++ inputs.map fun input => ⟨input, .waiting⟩⟩
          ⟨(inOrder config inputs files).2, done ++ jobs⟩ := by
  induction inputs generalizing files done with
  | nil => exact ⟨[], nofun, rfl, .refl⟩
  | cons input rest ih =>
      have here := interleaving_process config files input done
        (rest.map fun input => ⟨input, .waiting⟩)
      have split : inOrder config (input :: rest) files
          = (((process config input : StateM FileTree _).run files).1
              :: (inOrder config rest ((process config input : StateM FileTree _).run files).2).1,
            (inOrder config rest ((process config input : StateM FileTree _).run files).2).2) := by
        unfold inOrder
        rw [List.mapM_cons]
        rfl
      rw [split]
      generalize (process config input : StateM FileTree _).run files = ran at here
      obtain ⟨result, changed⟩ := ran
      obtain ⟨jobs, finished, results, there⟩ := ih changed (done ++ [⟨input, .finished result⟩])
      refine ⟨⟨input, .finished result⟩ :: jobs, ?_, ?_, ?_⟩
      · exact List.forall_mem_cons.mpr ⟨rfl, finished⟩
      · exact congrArg (result :: ·) results
      · rw [List.append_assoc, List.append_assoc] at there
        exact here.trans there

/-! ### Any order -/

/-- Whatever the order of the steps, a batch comes out as if its inputs were processed one after another.
-/
theorem interleaving_orderIndependent (config : Config) {inputs : List Path} {files : FileTree}
    {last : Running} (stands : files.HereStands) (accepted : Accepted config inputs)
    (reached : Interleaving config (.start files inputs) last) (complete : last.Complete)
    : OrderIndependent config inputs files last := by
  obtain ⟨faithful, listed⟩ := reached.faithful stands accepted
  have alone := listed ▸ faithful.results complete
  have settled := listed ▸ faithful.settled complete
  -- The steps in order are an interleaving too, so that all of this holds for them.
  obtain ⟨jobs, finished, results, ordered⟩ := interleaving_inOrder config inputs files []
  obtain ⟨faithful', listed'⟩ := Interleaving.faithful stands accepted ordered
  have alone' : (inOrder config inputs files).1.map Except.toOption
      = inputs.map (outcome? config files) :=
    results ▸ listed' ▸ faithful'.results finished
  have settled' : Settled config files inputs (inOrder config inputs files).2 :=
    listed' ▸ faithful'.settled finished
  have lengths : last.results.length = inputs.length := by
    simpa only [List.length_map] using congrArg List.length alone
  have reported := rendered_eq_filterMap alone
  have renderedInputs := rendered_map_input alone fun _ _ rendered => (outcome?_spec rendered).1
  have failedInputs := failures_map_fst alone
  constructor
  case contents => exact settled.sameEntries settled'
  case rendered => rw [reported, rendered_eq_filterMap alone']
  case failed => rw [failedInputs, failures_map_fst alone']
  case errors => exact failures_map_snd lengths
  case renderedInOrder => exact renderedInputs ▸ List.filter_sublist
  case failedInOrder => exact failedInputs ▸ List.filter_sublist
  case once =>
    rw [renderedInputs, failedInputs]
    exact List.filter_append_perm _ inputs
  case written =>
    intro file listed output named
    rw [reported] at listed
    obtain ⟨input, member, rendered⟩ := List.mem_filterMap.mp listed
    exact settled.readText_eq_ok member rendered named
  case kept =>
    intro place apart
    refine settled.entry?_eq fun input member file rendered => apart file ?_
    rw [reported]
    exact List.mem_filterMap.mpr ⟨input, member, rendered⟩
  case alone => exact alone
  case run =>
    intro before prepared
    unfold run
    rw [StateT.run_bind, prepared]
    rfl

end

/-- An output directory in which one of the inputs lies, as the output of an earlier batch. -/
def outputDirSample : FileTree where
  entries :=
    [(["out"], .directory), (["out", "a.html"], .file "old".toUTF8), (["b.md"], .file "new".toUTF8)]

/-- The inputs in the sample, the last of which is missing. -/
def inputsSample : List Path :=
  [⟨"b.md"⟩, ⟨"out/a.html"⟩, ⟨"c.md"⟩]

/-- The settings of the sample. -/
def configSample : Config where
  outputDir := some ⟨"out"⟩

/-- The second input is read and written between the steps of the first one. -/
def runningSample : Running :=
  [0, 1, 2, 1, 0].foldl (Running.advanceAt configSample) (.start outputDirSample inputsSample)

/-- Three inputs, of which the second is done between the steps of the first and the last is missing,
come to what they would in any other order.
-/
theorem orderIndependent_of_runningSample
    : outputDirSample.HereStands
      ∧ Accepted configSample inputsSample
      ∧ Interleaving configSample (.start outputDirSample inputsSample) runningSample
      ∧ runningSample.Complete
      ∧ OrderIndependent configSample inputsSample outputDirSample runningSample := by
  have stands : outputDirSample.HereStands := by
    intro place leads
    cases List.prefix_nil.mp leads
    rfl
  have accepted : Accepted configSample inputsSample := by
    intro directory set
    cases set
    decide +kernel
  have reached := interleaving_schedule configSample (.start outputDirSample inputsSample)
    [0, 1, 2, 1, 0]
  have complete : runningSample.Complete := by
    unfold Running.Complete
    decide +kernel
  exact ⟨stands, accepted, reached, complete,
    interleaving_orderIndependent configSample stands accepted reached complete⟩

end Docpress.Batch
