import Mathlib.Data.List.Nodup
import Docpress.Proofs.Batch.Collisions
import Docpress.Proofs.Batch.OrderIndependence

/-!
What a batch returns. Inputs with the same output are refused with everything left as it was; otherwise
every input that is reported as rendered has a file of its own with its contents, and the outputs of
the other inputs are as they were.
-/

namespace Docpress

/-- The input that an error says could not be read or rendered. -/
def BatchError.input? : BatchError → Option Path
  | .unreadable path _ => some path
  | .unrenderable path _ => some path
  | .config _ => none
  | .file _ => none

namespace Batch

open FileTree Fallible

section

variable [Markdown.Reader] [SyntaxLibrary] {config : Config} {directory : Path}
  {inputs : List Path} {files prepared after : FileTree} {running next last : Running}

/-- A batch returns with a result and leaves some files, whatever the order in which the steps of its
inputs are done.
-/
inductive Returns (config : Config) (inputs : List Path) (files : FileTree)
    : Except BatchError BatchReport → FileTree → Prop where
  | refused {error : BatchError} {after : FileTree}
    (stopped : (prepare config inputs : StateM FileTree _).run files = (.error error, after))
    : Returns config inputs files (.error error) after
  | reported {prepared : FileTree} {last : Running}
    (ready : (prepare config inputs : StateM FileTree _).run files = (.ok (), prepared))
    (reached : Interleaving config (.start prepared inputs) last) (complete : last.Complete)
    : Returns config inputs files (.ok (.ofResults last.results)) last.files

/-- Processing the inputs one after another is one of the orders. -/
theorem returns_run (config : Config) (inputs : List Path) (files : FileTree)
    : Returns config inputs files ((run config inputs : StateM FileTree _).run files).1
        ((run config inputs : StateM FileTree _).run files).2 := by
  unfold run
  rw [StateT.run_bind]
  cases ready : (prepare config inputs : StateM FileTree _).run files with
  | mk result prepared =>
      cases result with
      | error error => exact .refused ready
      | ok done =>
          obtain ⟨jobs, finished, results, ordered⟩ :=
            interleaving_inOrder config inputs prepared []
          have returns := Returns.reported ready ordered finished
          have listed : Running.results ⟨(inOrder config inputs prepared).2, jobs⟩
              = (inOrder config inputs prepared).1 := results
          rw [List.nil_append, listed] at returns
          exact returns

/-! ### Errors -/

/-- The error of a job that could not be read or rendered names the input of the job. -/
def Job.BlamesItself (job : Job) : Prop :=
  ∀ error named, job.result? = some (.error error) → error.input? = some named
    → named = job.input

/-- An input that cannot be rendered is named by the error. -/
theorem input?_of_renderText {input : Path} {source : String} {error : BatchError}
    (failure : renderText config input source = .error error)
    : error.input? = some input := by
  unfold renderText at failure
  split at failure
  next => cases failure
  next =>
    cases failure
    rfl

/-- If reading and rendering an input fails with an error that names an input, it is this one. -/
theorem input?_of_renderInput {input named : Path} {error : BatchError}
    (failure
      : (files.readText input).mapError (BatchError.unreadable input) >>= renderText config input
        = .error error)
    (names : error.input? = some named)
    : named = input := by
  rcases bind_eq_error_iff.mp failure with unread | ⟨source, _, unrendered⟩
  · cases text : files.readText input with
    | error cause =>
        rw [text] at unread
        cases unread
        cases names
        rfl
    | ok source =>
        rw [text] at unread
        cases unread
  · exact Option.some.inj (names.symm.trans (input?_of_renderText unrendered))

/-- After its step a job blames no other input than its own. -/
theorem Job.blamesItself_advance {job moved : Job} {changed : FileTree}
    (unfinished : job.result? = none)
    (moves : (job.advance config : StateM FileTree _).run files = (moved, changed))
    : moved.BlamesItself := by
  obtain ⟨input, progress⟩ := job
  intro error named failed names
  cases progress with
  | finished result => cases unfinished
  | waiting =>
      unfold Job.advance at moves
      dsimp only at moves
      rw [StateT.run_bind, renderInput_run] at moves
      cases step : (files.readText input).mapError (BatchError.unreadable input)
          >>= renderText config input with
      | ok contents =>
          rw [step] at moves
          cases moves
          cases failed
      | error cause =>
          rw [step] at moves
          cases moves
          cases failed
          exact input?_of_renderInput step names
  | rendered contents =>
      -- Writing fails with what the file system says, which names no input.
      have writes := writeOutput_run config input contents files
      cases moves
      have written : ((writeOutput config input contents : StateM FileTree _).run files).1
          = .error error := Option.some.inj failed
      generalize (writeOutput config input contents : StateM FileTree _).run files = ran
        at writes written
      obtain ⟨result, left⟩ := ran
      cases written
      cases writes
      cases names

/-- A step keeps it so that no job blames another input than its own. -/
theorem Step.blamesItself (step : Step config running next)
    (blames : ∀ job ∈ running.jobs, job.BlamesItself)
    : ∀ job ∈ next.jobs, job.BlamesItself := by
  cases step with
  | job unfinished moves =>
      exact forall_mem_replace blames (Job.blamesItself_advance unfinished moves)

/-- However the steps are interleaved, no job blames another input than its own. -/
theorem Interleaving.blamesItself (reached : Interleaving config (.start files inputs) last)
    : ∀ job ∈ last.jobs, job.BlamesItself := by
  induction reached with
  | refl =>
      intro job member error named failed
      obtain ⟨input, _, rfl⟩ := List.mem_map.mp member
      cases failed
  | tail _ step ih => exact step.blamesItself ih

/-! ### Reports -/

omit [Markdown.Reader] [SyntaxLibrary] in
/-- The rendered files of a report are those among the results. -/
theorem mem_rendered {results : List (Except BatchError RenderedFile)} {file : RenderedFile}
    : file ∈ (BatchReport.ofResults results).rendered ↔ .ok file ∈ results := by
  unfold BatchReport.ofResults
  rw [List.mem_filterMap]
  constructor
  · intro found
    obtain ⟨result, member, known⟩ := found
    cases result with
    | ok other =>
        cases known
        exact member
    | error error => cases known
  · intro member
    exact ⟨_, member, rfl⟩

omit [Markdown.Reader] [SyntaxLibrary] in
/-- The errors of a report are those among the results. -/
theorem mem_failed {results : List (Except BatchError RenderedFile)} {error : BatchError}
    : error ∈ (BatchReport.ofResults results).failed ↔ .error error ∈ results := by
  unfold BatchReport.ofResults
  rw [List.mem_filterMap]
  constructor
  · intro found
    obtain ⟨result, member, known⟩ := found
    cases result with
    | ok file => cases known
    | error other =>
        cases known
        exact member
  · intro member
    exact ⟨_, member, rfl⟩

/-- Every input that is reported as rendered has an output of its own with its contents, and the outputs
of the other inputs are as they were before the batch.
-/
structure OutputsKept (config : Config) (directory : Path) (inputs : List Path)
    (files : FileTree) (report : BatchReport) (after : FileTree)
    : Prop where
  named
    : ∀ file ∈ report.rendered,
        file.input ∈ inputs
        ∧ file.output = some (outputPath file.input directory config.format)
  distinct : (report.rendered.map (·.output)).Nodup
  /-- The files of the outputs hold the bytes of the contents. -/
  written
    : ∀ file ∈ report.rendered, ∀ output, file.output = some output
      → after.read output = .ok file.contents.toUTF8
  /-- An input that could not be read or rendered is not among the rendered ones. -/
  failed
    : ∀ error ∈ report.failed, ∀ input, error.input? = some input
      → input ∈ inputs ∧ ∀ file ∈ report.rendered, file.input ≠ input
  /-- Where the output of any other input leads there is a file exactly if there was one, with the
  content that it had.
  -/
  kept
    : ∀ input ∈ inputs, (∀ file ∈ report.rendered, file.input ≠ input)
      → ∀ place, after.FilePlace (outputPath input directory config.format) place
      → ∀ content, after.entry? place = some (.file content)
        ↔ files.entry? place = some (.file content)
  readable
    : ∀ input ∈ inputs, (∀ file ∈ report.rendered, file.input ≠ input)
      → ∀ content, files.read (outputPath input directory config.format) = .ok content
      → after.read (outputPath input directory config.format) = .ok content

/-- The rendered files of a report are what its inputs come to alone. -/
theorem mem_rendered_iff
    (alone : last.results.map Except.toOption = inputs.map (outcome? config prepared))
    {file : RenderedFile}
    : file ∈ (BatchReport.ofResults last.results).rendered
      ↔ ∃ input ∈ inputs, outcome? config prepared input = some file := by
  rw [rendered_eq_filterMap alone, List.mem_filterMap]

/-- What is rendered names its input and, where outputs are written, its output. -/
theorem output_of_outcome? {input : Path} {file : RenderedFile}
    (set : config.outputDir = some directory)
    (rendered : outcome? config prepared input = some file)
    : file.input = input
      ∧ file.output = some (outputPath input directory config.format)
      ∧ ∃ place, OutputPlace config prepared input place := by
  obtain ⟨named, ⟨unset, _⟩ | ⟨other, place, set', known, output⟩⟩ := outcome?_spec rendered
  · cases set.symm.trans unset
  · cases set.symm.trans set'
    exact ⟨named, known, place, output⟩

/-- An input that no rendered file of the report names could not be rendered. -/
theorem unrendered_of_not_named (set : config.outputDir = some directory)
    (alone : last.results.map Except.toOption = inputs.map (outcome? config prepared))
    {input : Path} (member : input ∈ inputs)
    (absent : ∀ file ∈ (BatchReport.ofResults last.results).rendered, file.input ≠ input)
    : outcome? config prepared input = none := by
  cases known : outcome? config prepared input with
  | none => rfl
  | some file =>
      have named := (output_of_outcome? set known).1
      exact absurd named (absent file ((mem_rendered_iff alone).mpr ⟨input, member, known⟩))

/-- The rendered files of a report have different outputs: they are those of some of the inputs, which
have outputs of their own.
-/
theorem nodup_rendered_outputs (set : config.outputDir = some directory)
    (alone : last.results.map Except.toOption = inputs.map (outcome? config prepared))
    (apart : (inputs.map (outputPath · directory config.format)).Nodup)
    : ((BatchReport.ofResults last.results).rendered.map (·.output)).Nodup := by
  have outputs
      : (BatchReport.ofResults last.results).rendered.map (·.output)
        = ((BatchReport.ofResults last.results).rendered.map (·.input)).map fun input =>
            some (outputPath input directory config.format) := by
    rw [List.map_map]
    apply List.map_congr_left
    intro file member
    obtain ⟨input, _, known⟩ := (mem_rendered_iff alone).mp member
    obtain ⟨rfl, output, _⟩ := output_of_outcome? set known
    exact output
  have own : ∀ input file, outcome? config prepared input = some file → file.input = input :=
    fun _ _ known => (output_of_outcome? set known).1
  rw [outputs, rendered_map_input alone own]
  have distinct
      : ((inputs.filter fun input => (outcome? config prepared input).isSome).map
          (outputPath · directory config.format)).Nodup :=
    (List.filter_sublist.map _).nodup apart
  have somes := distinct.map fun _ _ same => Option.some.inj same
  rwa [List.map_map] at somes

/-- The output of an input that was rendered can be read, with its contents. -/
theorem Settled.read_eq_ok (settled : Settled config prepared inputs after)
    (stands : prepared.HereStands) (set : config.outputDir = some directory) {input : Path}
    (member : input ∈ inputs) {file : RenderedFile}
    (rendered : outcome? config prepared input = some file)
    : after.read (outputPath input directory config.format) = .ok file.contents.toUTF8 := by
  obtain ⟨_, _, place, output⟩ := output_of_outcome? set rendered
  apply (read_eq_ok_iff (settled.directories.hereStands stands)).mpr
  have there := settled.directories.filePlace (output.filePlace set)
  exact ⟨place, there, settled.written input member file rendered place output⟩

/-- The output of an input that is not rendered is nobody else's, so it stays as it is. -/
theorem Settled.entry?_output (settled : Settled config prepared inputs after)
    (set : config.outputDir = some directory)
    (apart : (inputs.map (outputPath · directory config.format)).Nodup) {input : Path}
    (member : input ∈ inputs) (unrendered : outcome? config prepared input = none)
    {place : List String}
    (there : prepared.FilePlace (outputPath input directory config.format) place)
    : after.entry? place = prepared.entry? place := by
  apply settled.untouched
  intro other listed file rendered output
  have different : other ≠ input := by
    intro same
    rw [same, unrendered] at rendered
    cases rendered
  have separate : Separate config input other := by
    intro named set' same
    cases set.symm.trans set'
    exact different (List.inj_on_of_nodup_map apart listed member same.symm)
  have free : prepared.holdsDirectory place = false := by
    obtain ⟨_, _, _, free⟩ := output
    exact free
  exact separate.not_written ⟨directory, set, there, free⟩ output

/-- The one result of an input cannot be both an error and a file. -/
theorem Faithful.not_rendered_of_failed (faithful : Faithful config prepared last)
    (complete : last.Complete) (apart : (last.jobs.map (·.input)).Nodup)
    (blames : ∀ job ∈ last.jobs, job.BlamesItself) {error : BatchError}
    (failed : .error error ∈ last.results) {input : Path} (blamed : error.input? = some input)
    : input ∈ last.jobs.map (·.input)
      ∧ ∀ file, .ok file ∈ last.results → file.input ≠ input := by
  obtain ⟨job, member, result⟩ := List.mem_filterMap.mp failed
  have own := blames job member error input result blamed
  subst own
  refine ⟨List.mem_map_of_mem member, ?_⟩
  intro file listed same
  obtain ⟨other, member', result'⟩ := List.mem_filterMap.mp listed
  have rendered := (other.result?_eq_ok_iff (faithful.agrees other member')
    (complete other member')).mp result'
  have named := (outcome?_spec rendered).1
  have one := List.inj_on_of_nodup_map apart member' member (named.symm.trans same)
  rw [one, result] at result'
  cases result'

/-- All that a batch reports is so, whatever the order of its steps. Every part follows from what each
input comes to alone, and from the place of its output.
-/
theorem Interleaving.outputsKept (set : config.outputDir = some directory)
    (stands : files.HereStands) (grows : Grows files prepared)
    (apart : (inputs.map (outputPath · directory config.format)).Nodup)
    (reached : Interleaving config (.start prepared inputs) last) (complete : last.Complete)
    : OutputsKept config directory inputs files (.ofResults last.results) last.files := by
  have accepted : Accepted config inputs := by
    intro other set'
    cases set.symm.trans set'
    exact nodup_outputs_iff.mp apart
  have ready := grows.hereStands stands
  obtain ⟨faithful, listed⟩ := reached.faithful ready accepted
  have alone := listed ▸ faithful.results complete
  have settled := listed ▸ faithful.settled complete
  have kept : ∀ input ∈ inputs,
      (∀ file ∈ (BatchReport.ofResults last.results).rendered, file.input ≠ input)
      → ∀ place, last.files.FilePlace (outputPath input directory config.format) place
      → ∀ content, last.files.entry? place = some (.file content)
        ↔ files.entry? place = some (.file content) := by
    intro input member absent place there content
    have before := settled.directories.symm.filePlace there
    have unrendered := unrendered_of_not_named set alone member absent
    -- The preparation makes directories only: a file is there behind it just if it was there before.
    rw [settled.entry?_output set apart member unrendered before, grows.file_iff]
  constructor
  case named =>
    intro file member
    obtain ⟨input, listed, known⟩ := (mem_rendered_iff alone).mp member
    obtain ⟨rfl, output, _⟩ := output_of_outcome? set known
    exact ⟨listed, output⟩
  case distinct => exact nodup_rendered_outputs set alone apart
  case written =>
    intro file member output known
    obtain ⟨input, listed, rendered⟩ := (mem_rendered_iff alone).mp member
    obtain ⟨rfl, output', _⟩ := output_of_outcome? set rendered
    cases output'.symm.trans known
    exact settled.read_eq_ok ready set listed rendered
  case failed =>
    intro error member input blamed
    have unique : (last.jobs.map (·.input)).Nodup := listed ▸ apart.of_map _
    obtain ⟨among, others⟩ := faithful.not_rendered_of_failed complete unique
      reached.blamesItself (mem_failed.mp member) blamed
    exact ⟨listed ▸ among, fun file member => others file (mem_rendered.mp member)⟩
  case kept => exact kept
  case readable =>
    intro input member absent content given
    obtain ⟨place, there, file⟩ := (read_eq_ok_iff stands).mp given
    have still := settled.directories.filePlace (grows.filePlace there)
    apply (read_eq_ok_iff (settled.directories.hereStands ready)).mpr
    exact ⟨place, still, (kept input member absent place still content).mpr file⟩

/-! ### Collisions and outputs -/

/-- Inputs with the same output are refused before anything is done, and the refusal names the first
input whose output is claimed already and the last one before it that claims the output. Inputs with
outputs of their own are never refused as such, and a report on them tells what is in the outputs.
-/
theorem outputs_refused_or_kept (config : Config) (inputs : List Path) (files : FileTree)
    {directory : Path} (set : config.outputDir = some directory) (stands : files.HereStands)
    : Returns config inputs files ((run config inputs : StateM FileTree _).run files).1
        ((run config inputs : StateM FileTree _).run files).2
      ∧ ∀ result after,
          Returns config inputs files result after
          → (¬(inputs.map (outputPath · directory config.format)).Nodup
              → ∃ previous input output,
                  FirstCollision directory config.format inputs previous input
                  ∧ output = outputPath input directory config.format
                  ∧ result = .error (.config (.collision previous input output))
                  ∧ (BatchError.config (.collision previous input output)).message
                    = "Configuration error: " ++ (previous.text ++ " and " ++ input.text
                      ++ " would both be written to " ++ output.text)
                  ∧ after = files)
            ∧ ((inputs.map (outputPath · directory config.format)).Nodup
              → (∀ error, result = .error error → ∃ cause, error = .file cause)
                ∧ ∀ report,
                    result = .ok report
                    → OutputsKept config directory inputs files report after) := by
  refine ⟨returns_run config inputs files, ?_⟩
  intro result after returns
  constructor
  · intro repeated
    obtain ⟨previous, input, first, found⟩ := exists_firstCollision repeated
    have refused := prepare_run_of_collision set found files
    refine ⟨previous, input, _, first, rfl, ?_⟩
    cases returns with
    | refused stopped =>
        cases refused.symm.trans stopped
        exact ⟨rfl, rfl, rfl⟩
    | reported ready =>
        -- A batch that has got through its preparation was not refused.
        have both := refused.symm.trans ready
        cases both
  · intro apart
    have made := prepare_run_of_nodup set apart files
    cases returns with
    | refused stopped =>
        refine ⟨?_, fun report known => nomatch known⟩
        intro error known
        cases known
        rw [stopped] at made
        -- Once there is no collision, only making the output directory can stop the batch.
        cases result : ((FileSystem.makeDirectories directory : StateM FileTree _).run files).1 with
        | error cause =>
            rw [result] at made
            cases made
            exact ⟨cause, rfl⟩
        | ok done =>
            rw [result] at made
            cases made
    | reported ready reached complete =>
        refine ⟨fun error known => (nomatch known), ?_⟩
        intro report known
        cases known
        have grows := grows_prepare (m := StateM FileTree) ready
        exact reached.outputsKept set stands grows apart complete

end

/-- An output directory in which the output of an earlier batch is left. -/
def leftoverSample : FileTree where
  entries :=
    [(["out"], .directory), (["out", "c.html"], .file "old".toUTF8),
      (["a.md"], .file "new".toUTF8)]

/-- The third input has the output of the first one, and the fourth one that of the second one. -/
def repeatedSample : List Path :=
  [⟨"a.md"⟩, ⟨"b.md"⟩, ⟨"x/a.txt"⟩, ⟨"b.md"⟩]

/-- The second input is missing. -/
def missingSample : List Path :=
  [⟨"a.md"⟩, ⟨"c.md"⟩]

/-- A batch with two inputs for one output is refused. One with a missing input renders the other, and
keeps what an earlier batch left for the missing one.
-/
theorem outputs_refused_or_kept_of_samples
    : leftoverSample.HereStands
      ∧ (∃ previous input output,
          FirstCollision ⟨"out"⟩ .html repeatedSample previous input
          ∧ ((run configSample repeatedSample : StateM FileTree _).run leftoverSample).1
            = .error (.config (.collision previous input output)))
      ∧ ∃ report,
          ((run configSample missingSample : StateM FileTree _).run leftoverSample).1 = .ok report
          ∧ OutputsKept configSample ⟨"out"⟩ missingSample leftoverSample report
              ((run configSample missingSample : StateM FileTree _).run leftoverSample).2 := by
  have stands : leftoverSample.HereStands := by
    intro place leads
    cases List.prefix_nil.mp leads
    rfl
  refine ⟨stands, ?_, ?_⟩
  · obtain ⟨returns, outcome⟩ :=
      outputs_refused_or_kept configSample repeatedSample leftoverSample rfl stands
    have repeated : ¬(repeatedSample.map (outputPath · ⟨"out"⟩ .html)).Nodup := by decide +kernel
    obtain ⟨previous, input, output, first, _, refused, _⟩ := (outcome _ _ returns).1 repeated
    exact ⟨previous, input, output, first, refused⟩
  · obtain ⟨returns, outcome⟩ :=
      outputs_refused_or_kept configSample missingSample leftoverSample rfl stands
    have apart : (missingSample.map (outputPath · ⟨"out"⟩ .html)).Nodup := by decide +kernel
    have reported
        : ((run configSample missingSample : StateM FileTree _).run leftoverSample).1.toOption.map
            (fun _ => ())
          = some () := by
      decide +kernel
    obtain ⟨report, known, _⟩ := exists_of_toOption_map reported
    exact ⟨report, known, ((outcome _ _ returns).2 apart).2 report known⟩

end Batch

end Docpress
