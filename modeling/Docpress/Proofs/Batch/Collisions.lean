import Docpress.Proofs.Batch.Outputs
import Docpress.Proofs.FileSystem.Semantics

/-!
Inputs that have the same output. The check before a batch finds the first input whose output is claimed
already, and the batch is then refused with all files and directories as they were.
-/

namespace Docpress.Batch

open FileTree

variable {config : Config} {directory : Path} {format : OutputFormat} {inputs : List Path}

/-- All inputs before one have outputs of their own, and its own output is that of one of them, which no
other one in between has.
-/
inductive FirstCollision (directory : Path) (format : OutputFormat)
    : List Path → Path → Path → Prop where
  | intro {before between after : List Path} {previous input : Path}
    (apart : ((before ++ previous :: between).map (outputPath · directory format)).Nodup)
    (same : outputPath previous directory format = outputPath input directory format)
    (latest
      : ∀ other ∈ between,
          outputPath other directory format ≠ outputPath input directory format)
    : FirstCollision directory format (before ++ previous :: between ++ input :: after)
        previous input

/-- The outputs that some inputs claim, each with its input, the last one first. -/
def claims (directory : Path) (format : OutputFormat) (inputs : List Path) : List (Path × Path) :=
  (inputs.map fun input => (outputPath input directory format, input)).reverse

/-- The last input claims its output in front of those before it. -/
theorem claims_concat (inputs : List Path) (input : Path)
    : claims directory format (inputs ++ [input])
      = (outputPath input directory format, input) :: claims directory format inputs := by
  simp only [claims, List.map_append, List.map_cons, List.map_nil, List.reverse_concat]

/-- A claim is an input with its output. -/
theorem mem_claims {entry : Path × Path}
    : entry ∈ claims directory format inputs
      ↔ entry.2 ∈ inputs ∧ outputPath entry.2 directory format = entry.1 := by
  obtain ⟨output, input⟩ := entry
  simp only [claims, List.mem_reverse, List.mem_map, Prod.mk.injEq]
  constructor
  · rintro ⟨other, member, same, rfl⟩
    exact ⟨member, same⟩
  · rintro ⟨member, same⟩
    exact ⟨input, member, same, rfl⟩

/-- What is claimed under an output is the input of a claim, and that is one of the inputs. -/
theorem lookup_claims_eq_some {output previous : Path}
    (known : (claims directory format inputs).lookup output = some previous)
    : previous ∈ inputs ∧ outputPath previous directory format = output := by
  obtain ⟨front, back, split, _⟩ := List.lookup_eq_some_iff.mp known
  have claimed : (output, previous) ∈ claims directory format inputs := by
    rw [split]
    exact List.mem_append_right front List.mem_cons_self
  exact mem_claims.mp claimed

/-- An output without a claim is that of no input. -/
theorem lookup_claims_eq_none {output : Path}
    (free : (claims directory format inputs).lookup output = none)
    : ∀ input ∈ inputs, outputPath input directory format ≠ output := by
  intro input member same
  have apart := List.lookup_eq_none_iff.mp free (output, input) (mem_claims.mpr ⟨member, same⟩)
  simp at apart

/-- The check goes on until an output is claimed for the second time. By induction on the inputs that are
left, where those that were passed have outputs of their own.
-/
theorem collision?_claims {passed : List Path} {error : ConfigError}
    (apart : (passed.map (outputPath · directory format)).Nodup)
    (found : collision? directory format (claims directory format passed) inputs = some error)
    : ∃ previous input,
        FirstCollision directory format (passed ++ inputs) previous input
        ∧ error = .collision previous input (outputPath input directory format) := by
  induction inputs generalizing passed with
  | nil => cases found
  | cons input rest ih =>
      rw [collision?] at found
      cases known
          : (claims directory format passed).lookup (outputPath input directory format) with
      | some previous =>
          rw [known] at found
          cases found
          obtain ⟨member, same⟩ := lookup_claims_eq_some known
          obtain ⟨before, between, split⟩ := List.append_of_mem member
          subst split
          -- Those that were passed have different outputs, so that only one of them has this one.
          have latest : ∀ other ∈ between,
              outputPath other directory format ≠ outputPath input directory format := by
            intro other later again
            rw [List.map_append, List.map_cons, List.nodup_append, List.nodup_cons] at apart
            apply apart.2.1.1
            rw [same, ← again]
            exact List.mem_map_of_mem later
          exact ⟨previous, input, .intro apart same latest, rfl⟩
      | none =>
          rw [known] at found
          have others := lookup_claims_eq_none known
          -- The output is new, and the input joins those that were passed.
          have further : ((passed ++ [input]).map (outputPath · directory format)).Nodup := by
            rw [List.map_append, List.nodup_append]
            refine ⟨apart, List.pairwise_singleton _ _, ?_⟩
            intro output earlier own here same
            obtain ⟨other, member, rfl⟩ := List.mem_map.mp earlier
            rw [List.map_singleton, List.mem_singleton] at here
            exact others other member (same.trans here)
          obtain ⟨previous, second, first, rfl⟩ := ih further (by rwa [claims_concat])
          rw [List.append_assoc] at first
          exact ⟨previous, second, first, rfl⟩

/-- The outputs are distinct just if no collision is found. -/
theorem nodup_outputs_iff
    : (inputs.map (outputPath · directory format)).Nodup
      ↔ collision? directory format [] inputs = none := by
  rw [collision?_eq_none_iff, List.Nodup, List.pairwise_map]
  simp only [List.lookup_nil, implies_true, and_true]

/-- Inputs of which two have the same output are refused, for the first two that do. -/
theorem exists_firstCollision (repeated : ¬(inputs.map (outputPath · directory format)).Nodup)
    : ∃ previous input,
        FirstCollision directory format inputs previous input
        ∧ collision? directory format [] inputs
          = some (.collision previous input (outputPath input directory format)) := by
  rw [nodup_outputs_iff] at repeated
  obtain ⟨error, found⟩ := Option.ne_none_iff_exists'.mp repeated
  have started : collision? directory format (claims directory format []) inputs = some error :=
    found
  have apart : (([] : List Path).map (outputPath · directory format)).Nodup := List.nodup_nil
  obtain ⟨previous, input, first, rfl⟩ := collision?_claims apart started
  exact ⟨previous, input, first, found⟩

/-! ### Getting ready -/

/-- A batch with a collision is refused, and no file is changed. -/
theorem prepare_run_of_collision {error : ConfigError} (set : config.outputDir = some directory)
    (found : collision? directory config.format [] inputs = some error) (files : FileTree)
    : (prepare config inputs : StateM FileTree _).run files
      = (.error (.config error), files) := by
  unfold prepare
  rw [set]
  dsimp only
  rw [found]
  rfl

/-- Inputs with outputs of their own are turned away only if the output directory cannot be made. -/
theorem prepare_run_of_nodup (set : config.outputDir = some directory)
    (apart : (inputs.map (outputPath · directory config.format)).Nodup) (files : FileTree)
    : ((prepare config inputs : StateM FileTree _).run files).1
      = ((FileSystem.makeDirectories directory : StateM FileTree _).run files).1.mapError
          .file := by
  unfold prepare
  rw [set]
  dsimp only
  rw [nodup_outputs_iff.mp apart]
  rfl

section

open FileSemantics

variable {m : Type → Type} [Monad m] [FileSystem m] [FileSemantics m] {files prepared : FileTree}

/-- Getting ready makes directories and changes nothing else. -/
theorem grows_prepare {result : Except BatchError Unit}
    (ready : Ends (prepare config inputs : m _) files result prepared)
    : files.Grows prepared := by
  unfold prepare at ready
  split at ready
  next =>
    obtain ⟨_, rfl⟩ := ends_pure.mp ready
    exact .refl _
  next directory _ =>
    split at ready
    next =>
      obtain ⟨_, rfl⟩ := ends_pure.mp ready
      exact .refl _
    next =>
      obtain ⟨_, between, made, rest⟩ := ends_bind.mp ready
      obtain ⟨_, rfl⟩ := ends_pure.mp rest
      exact grows_makeLineage made

/-- A batch that gets through its preparation has no collision. -/
theorem accepted_of_prepare (ready : Ends (prepare config inputs : m _) files (.ok ()) prepared)
    : Accepted config inputs := by
  intro directory set
  unfold prepare at ready
  rw [set] at ready
  dsimp only at ready
  split at ready
  next =>
    obtain ⟨refused, _⟩ := ends_pure.mp ready
    cases refused
  next found => exact found

end

end Docpress.Batch
