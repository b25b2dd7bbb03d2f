import Docpress.Proofs.Program.Footprint

/-!
What a command that renders documents prints, and how it ends. Without an output directory it prints the
documents of all inputs that can be read and rendered, in the order of the command line and whatever the
order in which they are done; with one it prints nothing. It ends well exactly if every input was
rendered and written.
-/

namespace Docpress

open FileTree FileSemantics

namespace Batch

variable [Markdown.Reader] [SyntaxLibrary] {config : Config} {input : Path} {contents : String}
  {files prepared after : FileTree} {inputs : List Path}

/-- An input can be read, and what it says can be rendered: to a document with a written form. -/
inductive Renders (config : Config) (files : FileTree) (input : Path) : String → Prop where
  | intro {source : String} {document : RenderedDocument}
    (read : files.readText input = .ok source)
    (rendered : (DocumentRenderer.standard config.render).render none source = .ok document)
    : Renders config files input (document.write config.format)

/-- The output directory is there, if outputs are written to one. -/
inductive OutputReady (config : Config) (files : FileTree) : FileTree → Prop where
  | unset (unset : config.outputDir = none)
    : OutputReady config files files
  | made {directory : Path} {prepared : FileTree} (set : config.outputDir = some directory)
    (made
      : (FileSystem.makeDirectories directory : StateM FileTree _).run files = (.ok (), prepared))
    : OutputReady config files prepared

/-- An input is rendered, and its output holds what it is rendered to if outputs are written. The input
is read once the output directory is there, which it may lead through.
-/
def Delivered (config : Config) (prepared after : FileTree) (input : Path) : Prop :=
  ∃ contents,
    Renders config prepared input contents
    ∧ ∀ directory,
        config.outputDir = some directory
        → after.readText (outputPath input directory config.format) = .ok contents

/-- An input has contents if it can be read and its document rendered. -/
theorem contents?_eq_some_iff
    : contents? config files input = some contents ↔ Renders config files input contents := by
  rw [contents?_eq_toOption]
  constructor
  · intro known
    cases given : files.readText input with
    | error cause =>
        rw [given] at known
        cases known
    | ok source =>
        rw [given] at known
        change (renderText config input source).toOption = some contents at known
        unfold renderText at known
        split at known
        next document rendered =>
          cases known
          exact .intro given rendered
        next => cases known
  · rintro ⟨given, rendered⟩
    rw [given]
    change (renderText config input _).toOption = _
    unfold renderText
    rw [rendered]
    rfl

omit [Markdown.Reader] [SyntaxLibrary] in
/-- A batch that is accepted is prepared by making its output directory, if there is to be one. -/
theorem prepare_run_of_ready (accepted : Accepted config inputs)
    (ready : OutputReady config files prepared)
    : (prepare config inputs : StateM FileTree _).run files = (.ok (), prepared) := by
  cases ready with
  | unset unset =>
      unfold prepare
      rw [unset]
      rfl
  | made set made =>
      unfold prepare
      rw [set]
      dsimp only
      rw [accepted _ set]
      dsimp only
      rw [StateT.run_bind, made]
      rfl

-----------------------------------------------------------------------------------------
-- Inputs that are processed alone
-----------------------------------------------------------------------------------------

/-- Where no outputs are written, all that can be rendered comes out. -/
theorem outcome?_of_unset (unset : config.outputDir = none) (tree : FileTree) (input : Path)
    : outcome? config tree input
      = (contents? config tree input).map fun contents => ⟨input, none, contents⟩ := by
  cases known : contents? config tree input with
  | none => rw [outcome?_eq_bind, known, Option.bind_none, Option.map_none]
  | some contents =>
      obtain ⟨result, after, writes, outcome⟩ := writes_of_contents? known
      rw [outcome, Option.map_some]
      cases writes with
      | nowhere => rfl
      | placed set | failed set => cases set.symm.trans unset

/-- Where outputs are written, all that can be rendered comes out if its output has a place. -/
theorem outcome?_isSome_of_place (rendered : Renders config files input contents)
    {place : List String} (output : OutputPlace config files input place)
    : (outcome? config files input).isSome = true := by
  obtain ⟨result, after, writes, outcome⟩ := writes_of_contents? (contents?_eq_some_iff.mpr rendered)
  rw [outcome]
  cases writes with
  | nowhere | placed => rfl
  | failed _ closed => exact absurd output (closed place)

omit [Markdown.Reader] [SyntaxLibrary] in
/-- An output that can be read has a place. -/
theorem outputPlace_of_readText (stands : files.HereStands) {directory : Path}
    (set : config.outputDir = some directory)
    (given : files.readText (outputPath input directory config.format) = .ok contents)
    : ∃ place, OutputPlace config files input place := by
  have known := congrArg Except.toOption given
  rw [toOption_readText] at known
  obtain ⟨content, read, _⟩ := Option.bind_eq_some_iff.mp known
  have read : files.read (outputPath input directory config.format) = .ok content := by
    cases result : files.read (outputPath input directory config.format) with
    | error cause =>
        rw [result] at read
        cases read
    | ok other =>
        rw [result] at read
        cases read
        rfl
  obtain ⟨place, there, file⟩ := (read_eq_ok_iff stands).mp read
  exact ⟨place, directory, set, there, holdsDirectory_of_file file⟩

/-- What an input comes to alone is what it is rendered to. -/
theorem renders_of_outcome? {file : RenderedFile} (rendered : outcome? config files input = some file)
    : Renders config files input file.contents := by
  obtain ⟨contents, known, after, writes⟩ := writes_of_outcome? rendered
  have renders := contents?_eq_some_iff.mp known
  cases writes with
  | nowhere | placed => exact renders

/-- The inputs that come out when they are processed alone are those that are delivered in a batch. -/
theorem Settled.delivered_iff (settled : Settled config prepared inputs after)
    (stands : prepared.HereStands) (member : input ∈ inputs)
    : (outcome? config prepared input).isSome = true ↔ Delivered config prepared after input := by
  constructor
  · intro some
    obtain ⟨file, rendered⟩ := Option.isSome_iff_exists.mp some
    refine ⟨file.contents, renders_of_outcome? rendered, fun directory set => ?_⟩
    exact settled.readText_eq_ok member rendered (output_of_outcome? set rendered).2.1
  · rintro ⟨contents, rendered, written⟩
    cases set : config.outputDir with
    | none =>
        rw [outcome?_of_unset set, contents?_eq_some_iff.mpr rendered]
        rfl
    | some directory =>
        obtain ⟨place, output⟩ := outputPlace_of_readText
          (settled.directories.hereStands stands) set (written directory set)
        exact outcome?_isSome_of_place rendered
          ((outputPlace_congr settled.directories).mpr output)

end Batch

namespace Program

-----------------------------------------------------------------------------------------
-- What is printed
-----------------------------------------------------------------------------------------

/-- A text ends in a line end. -/
def EndsLine (text : String) : Prop :=
  ∃ front, text = front ++ "\n"

/-- A text ends in a line end if its last character is one. -/
theorem endsLine_iff {text : String} : EndsLine text ↔ text.toList.getLast? = some '\n' := by
  constructor
  · rintro ⟨front, rfl⟩
    rw [String.toList_append]
    exact List.getLast?_concat
  · intro last
    obtain ⟨front, split⟩ := List.getLast?_eq_some_iff.mp last
    refine ⟨String.ofList front, String.toList_inj.mp ?_⟩
    rw [split, String.toList_append, String.toList_ofList]
    rfl

/-- A text that ends in a line end is printed as it is. -/
theorem printed_of_endsLine {text : String} (ends : EndsLine text) : printed text = text :=
  if_pos (beq_iff_eq.mpr (endsLine_iff.mp ends))

/-- Any other text is printed with a line end behind it. -/
theorem printed_of_not_endsLine {text : String} (ends : ¬EndsLine text) : printed text = text ++ "\n" :=
  if_neg fun last => ends (endsLine_iff.mpr (beq_iff_eq.mp last))

section

variable [Markdown.Reader] [SyntaxLibrary] {config : Config} {files prepared after : FileTree}
  {inputs : List Path} {text : String}

/-- What is printed for some inputs where no outputs are written: the documents of those that can be read
and rendered, each with a line end of its own unless it ends in one.
-/
inductive Printout (config : Config) (files : FileTree) : List Path → String → Prop where
  | nil
    : Printout config files [] ""
  | skipped {input : Path} {inputs : List Path} {text : String}
    (nothing : ∀ contents, ¬Batch.Renders config files input contents)
    (rest : Printout config files inputs text)
    : Printout config files (input :: inputs) text
  | asItIs {input : Path} {inputs : List Path} {contents text : String}
    (rendered : Batch.Renders config files input contents) (ends : EndsLine contents)
    (rest : Printout config files inputs text)
    : Printout config files (input :: inputs) (contents ++ text)
  | withLineEnd {input : Path} {inputs : List Path} {contents text : String}
    (rendered : Batch.Renders config files input contents) (ends : ¬EndsLine contents)
    (rest : Printout config files inputs text)
    : Printout config files (input :: inputs) (contents ++ "\n" ++ text)

/-- There is one printout, by induction on the inputs. -/
theorem printout_iff
    : Printout config files inputs text
      ↔ text = String.join ((inputs.filterMap (Batch.contents? config files)).map printed) := by
  induction inputs generalizing text with
  | nil =>
      constructor
      · rintro ⟨⟩
        rfl
      · rintro rfl
        exact .nil
  | cons input inputs ih =>
      cases known : Batch.contents? config files input with
      | none =>
          have nothing : ∀ contents, ¬Batch.Renders config files input contents := by
            intro contents rendered
            rw [Batch.contents?_eq_some_iff.mpr rendered] at known
            cases known
          rw [List.filterMap_cons_none known, ← ih]
          constructor
          · intro printout
            cases printout with
            | skipped _ rest => exact rest
            | asItIs rendered | withLineEnd rendered => exact absurd rendered (nothing _)
          · exact .skipped nothing
      | some contents =>
          have rendered := Batch.contents?_eq_some_iff.mp known
          -- An input has one document, so that only one of the three ways of printing is open to it.
          have only {other : String} (again : Batch.Renders config files input other)
              : other = contents :=
            Option.some.inj ((Batch.contents?_eq_some_iff.mpr again).symm.trans known)
          rw [List.filterMap_cons_some known, List.map_cons, String.join_cons]
          constructor
          · intro printout
            cases printout with
            | skipped nothing => exact absurd rendered (nothing contents)
            | asItIs again ends rest =>
                cases only again
                rw [printed_of_endsLine ends, ← ih.mp rest]
            | withLineEnd again ends rest =>
                cases only again
                rw [printed_of_not_endsLine ends, ← ih.mp rest]
          · rintro rfl
            by_cases ends : EndsLine contents
            · rw [printed_of_endsLine ends]
              exact .asItIs rendered ends (ih.mpr rfl)
            · rw [printed_of_not_endsLine ends]
              exact .withLineEnd rendered ends (ih.mpr rfl)

-----------------------------------------------------------------------------------------
-- How the command ends
-----------------------------------------------------------------------------------------

/-- The end of a run in which a batch has come to a result. -/
def conclude (inputs : List Path) : Except BatchError BatchReport → Outcome
  | .error error => .failure error.chain
  | .ok report => reportBatch inputs report

/-- A command that renders documents ends, with the steps of its inputs done in any order. -/
inductive Concludes (line : CommandLine) (files : FileTree) : Outcome → FileTree → Prop where
  | intro {arguments : RenderArguments} {config : Config}
    {result : Except BatchError BatchReport} {after : FileTree}
    (named : line.command = .render arguments) (loaded : line.config? files = some config)
    (returned : Batch.Returns config arguments.inputs files result after)
    : Concludes line files (conclude arguments.inputs result) after

/-- In the program the inputs are done one after another. -/
theorem concludes_of_ran {line : CommandLine} {arguments : RenderArguments} {outcome : Outcome}
    (named : line.command = .render arguments) (loaded : line.config? files = some config)
    (ran : (execute line : StateM FileTree _).run files = (outcome, after))
    : Concludes line files outcome after := by
  have ends : Ends (execute line : StateM FileTree _) files outcome after := ran
  unfold execute at ends
  rw [named] at ends
  obtain ⟨result, left, resolved, ends⟩ := ends_bind.mp ends
  have same : left = files := (Config.resolve_ends resolved).1
  subst left
  -- Loading the settings changes no files, so that they are those of the files at the start.
  have settings : result.toOption = some config :=
    (congrArg (·.1.toOption) resolved).symm.trans loaded
  cases result with
  | error cause => cases settings
  | ok other =>
      cases settings
      dsimp only at ends
      unfold render at ends
      obtain ⟨result, left, ran, ends⟩ := ends_bind.mp ends
      have returned := Batch.returns_run config arguments.inputs files
      rw [show (Batch.run config arguments.inputs : StateM FileTree _).run files = (result, left)
        from ran] at returned
      cases result with
      | error error =>
          obtain ⟨rfl, rfl⟩ := ends_pure.mp ends
          exact .intro named loaded returned
      | ok report =>
          obtain ⟨rfl, rfl⟩ := ends_pure.mp ends
          exact .intro named loaded returned

omit [Markdown.Reader] [SyntaxLibrary] in
/-- A batch ends with success if nothing has failed. -/
theorem exitCode_reportBatch (inputs : List Path) (report : BatchReport)
    : (reportBatch inputs report).exitCode = 0 ↔ report.failed = [] := by
  unfold reportBatch BatchReport.isSuccess
  cases report.failed with
  | nil => simp
  | cons error rest => simp

omit [Markdown.Reader] [SyntaxLibrary] in
/-- The output of a batch is what is printed of the documents that were not written to files. -/
theorem output_reportBatch (inputs : List Path) (report : BatchReport)
    : (reportBatch inputs report).output
      = String.join ((report.rendered.filter (·.output.isNone)).map (printed ·.contents)) := by
  unfold reportBatch
  dsimp only
  split <;> rfl

omit [Markdown.Reader] [SyntaxLibrary] in
/-- No input fails exactly if all of them come out. -/
theorem failed_eq_nil_iff {outcome : Path → Option RenderedFile}
    {results : List (Except BatchError RenderedFile)}
    (alone : results.map Except.toOption = inputs.map outcome)
    : (BatchReport.ofResults results).failed = []
      ↔ ∀ input ∈ inputs, (outcome input).isSome = true := by
  have comes : (∀ result ∈ results, result.toOption.isSome = true)
      ↔ ∀ input ∈ inputs, (outcome input).isSome = true := by
    have same := congrArg (fun outcomes => ∀ outcome ∈ outcomes, outcome.isSome = true) alone
    rw [List.forall_mem_map, List.forall_mem_map] at same
    exact iff_of_eq same
  rw [← comes, BatchReport.ofResults, List.filterMap_eq_nil_iff]
  refine forall₂_congr fun result _ => ?_
  cases result <;> simp [Except.toOption]

/-- Where no outputs are written, all that comes out is printed. -/
theorem printed_of_unset (unset : config.outputDir = none)
    : ((inputs.filterMap (Batch.outcome? config files)).filter (·.output.isNone)).map
        (printed ·.contents)
      = (inputs.filterMap (Batch.contents? config files)).map printed := by
  induction inputs with
  | nil => rfl
  | cons input inputs ih =>
      have known := Batch.outcome?_of_unset unset files input
      cases here : Batch.contents? config files input with
      | none =>
          rw [here] at known
          rw [List.filterMap_cons_none known, List.filterMap_cons_none here]
          exact ih
      | some contents =>
          rw [here] at known
          rw [List.filterMap_cons_some known, List.filterMap_cons_some here]
          exact congrArg (printed contents :: ·) ih

/-- Where outputs are written, nothing is printed. -/
theorem nothing_printed_of_set {directory : Path} (set : config.outputDir = some directory)
    : (inputs.filterMap (Batch.outcome? config files)).filter (·.output.isNone) = [] := by
  rw [List.filter_eq_nil_iff]
  intro file member
  obtain ⟨input, _, rendered⟩ := List.mem_filterMap.mp member
  rw [(Batch.output_of_outcome? set rendered).2.1]
  exact Bool.false_ne_true

/-- Whatever the order of the steps, a command that renders documents prints what there is to print, and
ends well exactly if every input is delivered.
-/
theorem documents_printed_in_order {line : CommandLine} {arguments : RenderArguments}
    (stands : files.HereStands) (named : line.command = .render arguments)
    (loaded : line.config? files = some config)
    (accepted : Batch.Accepted config arguments.inputs)
    (ready : Batch.OutputReady config files prepared)
    : (∀ outcome after,
        (execute line : StateM FileTree _).run files = (outcome, after)
        → Concludes line files outcome after)
      ∧ ∀ outcome after,
          Concludes line files outcome after
          → (config.outputDir = none
              → ∀ text, Printout config files arguments.inputs text ↔ text = outcome.output)
            ∧ (∀ directory, config.outputDir = some directory → outcome.output = "")
            ∧ (outcome.exitCode = 0
              ↔ ∀ input ∈ arguments.inputs, Batch.Delivered config prepared after input) := by
  refine ⟨fun outcome after => concludes_of_ran named loaded, ?_⟩
  rintro _ after ⟨named', loaded', returned⟩
  cases named.symm.trans named'
  cases loaded.symm.trans loaded'
  -- The batch gets past its preparations, so that there is a result for each input, in order.
  have started := Batch.prepare_run_of_ready accepted ready
  cases returned with
  | refused stopped => cases started.symm.trans stopped
  | @reported prepared' last ready' reached complete =>
      cases started.symm.trans ready'
      have still := (Batch.grows_prepare (m := StateM FileTree) ready').hereStands stands
      obtain ⟨faithful, listed⟩ := reached.faithful still accepted
      have alone := listed ▸ faithful.results complete
      have settled := listed ▸ faithful.settled complete
      refine ⟨fun unset text => ?_, fun directory set => ?_, ?_⟩
      · cases ready with
        | made set => cases set.symm.trans unset
        | unset =>
            rw [printout_iff]
            change text = _ ↔ text = (reportBatch arguments.inputs _).output
            rw [output_reportBatch, Batch.rendered_eq_filterMap alone, printed_of_unset unset]
      · change (reportBatch arguments.inputs _).output = ""
        rw [output_reportBatch, Batch.rendered_eq_filterMap alone, nothing_printed_of_set set]
        rfl
      · change (reportBatch arguments.inputs _).exitCode = 0 ↔ _
        rw [exitCode_reportBatch, failed_eq_nil_iff alone]
        exact forall₂_congr fun input member => settled.delivered_iff still member

end

/-! ### One command that prints and one that writes -/

section

open Batch (outputDirSample configSample)

/-- A document, and an empty one. -/
def printingSample : FileTree where
  entries := [(["b.md"], .file "new".toUTF8), (["e.md"], .file "".toUTF8)]

/-- The command that prints them, and names a document that is missing. -/
def printSample : CommandLine where
  command := .render { inputs := [⟨"b.md"⟩, ⟨"c.md"⟩, ⟨"e.md"⟩] }

/-- Two documents are printed around a missing one, which makes the run fail. With an output directory
nothing is printed.
-/
theorem documents_printed_of_samples
    : (∃ outcome after,
        (execute printSample : StateM FileTree _).run printingSample = (outcome, after)
        ∧ outcome.exitCode = 1
        ∧ Printout {} printingSample [⟨"b.md"⟩, ⟨"c.md"⟩, ⟨"e.md"⟩] "<p>new</p>\n\n"
        ∧ ¬∀ input ∈ [(⟨"b.md"⟩ : Path), ⟨"c.md"⟩, ⟨"e.md"⟩],
            Batch.Delivered {} printingSample after input)
      ∧ ∃ outcome after,
          (execute renderSample : StateM FileTree _).run outputDirSample = (outcome, after)
          ∧ outcome.output = ""
          ∧ ∀ input ∈ [(⟨"b.md"⟩ : Path)],
              Batch.Delivered configSample outputDirSample after input := by
  constructor
  · have accepted : Batch.Accepted {} [⟨"b.md"⟩, ⟨"c.md"⟩, ⟨"e.md"⟩] := nofun
    have stands : printingSample.HereStands := hereStands_of_top rfl
    have named : printSample.command = .render { inputs := [⟨"b.md"⟩, ⟨"c.md"⟩, ⟨"e.md"⟩] } := rfl
    obtain ⟨ran, ends⟩ := documents_printed_in_order stands named rfl accepted (.unset rfl)
    obtain ⟨printed, _, delivered⟩ := ends _ _ (ran _ _ rfl)
    have failed : ((execute printSample : StateM FileTree _).run printingSample).1.exitCode = 1 := by
      decide +kernel
    refine ⟨_, _, rfl, failed, (printed rfl _).mpr (by decide +kernel), fun all => ?_⟩
    exact absurd (failed.symm.trans (delivered.mpr all)) (by decide)
  · have accepted : Batch.Accepted configSample [⟨"b.md"⟩] := by
      rintro _ ⟨⟩
      decide +kernel
    have made : (FileSystem.makeDirectories ⟨"out"⟩ : StateM FileTree _).run outputDirSample
        = (.ok (), outputDirSample) :=
      rfl
    have stands : outputDirSample.HereStands := hereStands_of_top rfl
    have named
        : renderSample.command = .render { inputs := [⟨"b.md"⟩], outputDir := some ⟨"out"⟩ } :=
      rfl
    obtain ⟨ran, ends⟩ := documents_printed_in_order stands named rfl accepted (.made rfl made)
    obtain ⟨_, silent, delivered⟩ := ends _ _ (ran _ _ rfl)
    exact ⟨_, _, rfl, silent _ rfl, delivered.mp (by decide +kernel)⟩

end

end Program

end Docpress
