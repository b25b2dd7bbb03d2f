import Docpress.Proofs.Batch.Reports

/-!
The files that the inputs of a batch are read from. No batch removes one, and the output of one input is
never written over another input, because that one would have the same output. What the check does not
look for is an input in the place of its own output: a rendering takes its place.
-/

namespace Docpress

namespace Batch

open FileTree Fallible

section

variable [Markdown.Reader] [SyntaxLibrary] {config : Config} {inputs : List Path}
  {files prepared after : FileTree}

/-- A rendered input lies where its own output is written, and holds what it was rendered to. -/
inductive Overwritten (config : Config) (report : BatchReport) (after : FileTree)
    : Path → Prop where
  | byItself {directory : Path} {file : RenderedFile} {place : List String}
    (set : config.outputDir = some directory) (listed : file ∈ report.rendered)
    (source : after.FilePlace file.input place)
    (output : after.FilePlace (outputPath file.input directory config.format) place)
    (holds : after.read file.input = .ok file.contents.toUTF8)
    : Overwritten config report after file.input

omit [Markdown.Reader] [SyntaxLibrary] in
/-- Only inputs with the extension of the outputs are overwritten. -/
theorem Overwritten.fileName? {report : BatchReport} {input : Path}
    (overwritten : Overwritten config report after input)
    : input.fileName? = some (outputName input config.format) := by
  obtain ⟨set, listed, source, output, holds⟩ := overwritten
  apply Path.fileName?_of_getLast?
  · rw [← source.getLast?.1, output.getLast?.1, getLast?_pieces_outputPath]
  · exact isName_outputName _ _

/-- The file of an input is the output of no other input, and so it changes only if the input itself is
rendered into it.
-/
theorem Settled.entry?_source (settled : Settled config prepared inputs after)
    (accepted : Accepted config inputs) {input : Path} (member : input ∈ inputs)
    {place : List String} (found : prepared.FilePlace input place)
    : after.entry? place = prepared.entry? place
      ∨ ∃ file,
          outcome? config prepared input = some file
          ∧ OutputPlace config prepared input place
          ∧ after.entry? place = some (.file file.contents.toUTF8) := by
  by_cases output : ∃ other ∈ inputs, ∃ file, outcome? config prepared other = some file
      ∧ OutputPlace config prepared other place
  · obtain ⟨other, listed, file, rendered, written⟩ := output
    have same : other = input := by
      obtain ⟨directory, set, there, _⟩ := written
      have outputs := outputPath_eq_of_filePlace found there
      exact List.inj_on_of_nodup_map (nodup_outputs_iff.mpr (accepted directory set)) listed
        member outputs.symm
    subst same
    exact Or.inr ⟨file, rendered, written, settled.written other listed file rendered place written⟩
  · apply Or.inl
    apply settled.untouched
    intro other listed file rendered written
    exact output ⟨other, listed, file, rendered, written⟩

/-- Every input that names a file when a batch starts names a file when it returns, whatever the order of
its steps. The content is the same unless the output of that very input leads to the file and the
input was rendered: then it is what the input was rendered to.
-/
theorem sources_kept_or_overwritten (stands : files.HereStands) {report : BatchReport}
    (returned : Returns config inputs files (.ok report) after)
    : ∀ input ∈ inputs, ∀ content,
        files.read input = .ok content
        → after.read input = .ok content ∨ Overwritten config report after input := by
  intro input member content given
  cases returned with
  | @reported prepared last ready reached complete =>
      have grows := grows_prepare (m := StateM FileTree) ready
      have still := grows.hereStands stands
      have accepted := accepted_of_prepare (m := StateM FileTree) ready
      obtain ⟨faithful, listed⟩ := reached.faithful still accepted
      have alone := listed ▸ faithful.results complete
      have settled := listed ▸ faithful.settled complete
      have stands' := settled.directories.hereStands still
      obtain ⟨place, there, file⟩ := (read_eq_ok_iff stands).mp given
      have found := grows.filePlace there
      have now := settled.directories.filePlace found
      rcases settled.entry?_source accepted member found with kept | ⟨rendered, made, output, holds⟩
      · refine Or.inl ((read_eq_ok_iff stands').mpr ⟨place, now, ?_⟩)
        rw [kept]
        exact grows.entry file
      · obtain ⟨directory, set, written, _⟩ := output
        obtain ⟨rfl, _⟩ := output_of_outcome? set made
        have reported := (mem_rendered_iff alone).mpr ⟨_, member, made⟩
        exact Or.inr (.byItself set reported now (settled.directories.filePlace written)
          ((read_eq_ok_iff stands').mpr ⟨place, now, holds⟩))

end

/-- An input in the output directory that has the name of its output. -/
def sourceInOutputDir : List Path := [⟨"out/a.html"⟩, ⟨"b.md"⟩]

/-- Two inputs are rendered, of which the first stands where its own output is written. -/
theorem sources_kept_or_overwritten_of_sample
    : outputDirSample.HereStands
      ∧ ∃ report,
          ((run configSample sourceInOutputDir : StateM FileTree _).run outputDirSample).1
            = .ok report
          ∧ report.rendered.length = 2
          ∧ ∀ input ∈ sourceInOutputDir, ∀ content,
              outputDirSample.read input = .ok content
              → ((run configSample sourceInOutputDir : StateM FileTree _).run outputDirSample).2.read
                    input
                  = .ok content
                ∨ Overwritten configSample report
                    ((run configSample sourceInOutputDir : StateM FileTree _).run outputDirSample).2
                    input := by
  have stands : outputDirSample.HereStands := hereStands_of_top rfl
  have reported
      : ((run configSample sourceInOutputDir : StateM FileTree _).run outputDirSample).1.toOption.map
          (·.rendered.length)
        = some 2 := by
    decide +kernel
  obtain ⟨report, known, both⟩ := exists_of_toOption_map reported
  have returns := returns_run configSample sourceInOutputDir outputDirSample
  rw [known] at returns
  exact ⟨stands, report, known, both, sources_kept_or_overwritten stands returns⟩

/-- Not every input keeps its content: the first one of the sample is overwritten by what it was rendered
to.
-/
theorem source_overwritten_in_sample
    : ∃ report after,
        Returns configSample sourceInOutputDir outputDirSample (.ok report) after
        ∧ report.isSuccess = true
        ∧ outputDirSample.read ⟨"out/a.html"⟩ = .ok "old".toUTF8
        ∧ after.read ⟨"out/a.html"⟩ = .ok "<p>old</p>".toUTF8
        ∧ after.read ⟨"out/a.html"⟩ ≠ .ok "old".toUTF8 := by
  have reported
      : ((run configSample sourceInOutputDir : StateM FileTree _).run outputDirSample).1.toOption.map
          (·.isSuccess)
        = some true := by
    decide +kernel
  obtain ⟨report, known, success⟩ := exists_of_toOption_map reported
  have returns := returns_run configSample sourceInOutputDir outputDirSample
  rw [known] at returns
  refine ⟨report, _, returns, success, ?_⟩
  decide +kernel

end Batch

end Docpress
