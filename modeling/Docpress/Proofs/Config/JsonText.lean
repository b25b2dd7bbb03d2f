import Docpress.Proofs.Config.Given
import Mathlib.Algebra.Group.Nat.Defs

/-!
Configurations and options are read back from their JSON texts, compact or indented.
-/

namespace Docpress

open Json

/-- An optional string is written as null or as the string. -/
theorem isOptional_ofOption (text : Option String) : IsOptional IsText (.ofOption text) text := by
  cases text with
  | none => exact .unset
  | some text => exact .given nofun (.intro text)

/-- A heading policy is written by its name. -/
theorem HeadingIds.isChoice_name (policy : HeadingIds)
    : IsChoice names (.string policy.name) policy := by
  refine .name ?_
  cases policy <;> decide

/-- A table mode is written by its name. -/
theorem TableMode.isChoice_name (mode : TableMode) : IsChoice names (.string mode.name) mode := by
  refine .name ?_
  cases mode <;> decide

/-- An output format is written by its name. -/
theorem OutputFormat.isChoice_name (format : OutputFormat)
    : IsChoice names (.string format.name) format := by
  refine .name ?_
  cases format <;> decide

-----------------------------------------------------------------------------------------
-- Options
-----------------------------------------------------------------------------------------

namespace RenderOptions

/-- All options are given. -/
def given (options : RenderOptions) : GivenOptions where
  gfm := options.gfm
  structuredTables := options.structuredTables
  highlightCode := options.highlightCode
  highlightTheme := some options.highlightTheme
  defaultLanguage := some options.defaultLanguage
  headingIds := options.headingIds
  tableMode := options.tableMode

/-- The members of the JSON form. -/
def members (options : RenderOptions) : List (String × Json) :=
  [("gfm", .bool options.gfm),
    ("structured_tables", .bool options.structuredTables),
    ("highlight_code", .bool options.highlightCode),
    ("highlight_theme", .ofOption options.highlightTheme),
    ("default_language", .ofOption options.defaultLanguage),
    ("heading_ids", .string options.headingIds.name),
    ("table_mode", .string options.tableMode.name)]

/-- The members of written options give every option, each of them once. -/
theorem given_in_members (options : RenderOptions) : options.given.In options.members where
  gfm := .once rfl (.intro options.gfm)
  structuredTables := .once rfl (.intro options.structuredTables)
  highlightCode := .once rfl (.intro options.highlightCode)
  highlightTheme := .once rfl (isOptional_ofOption options.highlightTheme)
  defaultLanguage := .once rfl (isOptional_ofOption options.defaultLanguage)
  headingIds := .once rfl options.headingIds.isChoice_name
  tableMode := .once rfl options.tableMode.isChoice_name

/-- There are no numbers among the options to read back. -/
theorem numbersReadBack_toJson (options : RenderOptions) : NumbersReadBack options.toJson := by
  refine numbersReadBack_object ?_
  simp [numbersReadBack_bool, numbersReadBack_string, numbersReadBack_ofOption]

/-- Options are read from any text of their JSON value, compact or indented. -/
theorem ofText?_of_isTextOf {text : String} {options : RenderOptions}
    (isText : IsTextOf text options.toJson)
    : ofText? text = some options := by
  obtain ⟨source, known, means⟩ := isText.exists_source
  rw [ofText?, known]
  exact takes_options means (.intro options.given_in_members)

end RenderOptions

-----------------------------------------------------------------------------------------
-- Configurations
-----------------------------------------------------------------------------------------

namespace Config

/-- All settings are given. -/
def given (config : Config) : GivenConfig where
  outputDir := some config.outputDir
  format := config.format
  jobs := some config.jobs
  render := config.render.given

/-- The JSON form of how many jobs there are. -/
def jobsJson : Option Nat → Json
  | some jobs => .int jobs
  | none => .null

/-- The members of the JSON form. -/
def members (config : Config) : List (String × Json) :=
  [("output_dir", .ofOption (config.outputDir.map Path.text)),
    ("format", .string config.format.name),
    ("jobs", jobsJson config.jobs),
    ("render", .object config.render.members)]

/-- A configuration is written as the object of its members. -/
theorem toJson_eq (config : Config) : config.toJson = .object config.members := rfl

/-- An optional path is written as null or as the text of the path. -/
theorem isOptional_path (path : Option Path)
    : IsOptional IsPath (.ofOption (path.map Path.text)) path := by
  cases path with
  | none => exact .unset
  | some path => exact .given nofun (.intro path)

/-- A number of jobs is written as null or as the number. -/
theorem isOptional_jobs (jobs : Option Nat) : IsOptional IsNat (jobsJson jobs) jobs := by
  cases jobs with
  | none => exact .unset
  | some jobs => exact .given nofun (.intro jobs)

/-- The members of a written configuration give every setting and every option, each of them once. -/
theorem given_in_members (config : Config) : config.given.In config.members where
  outputDir := .once rfl (isOptional_path config.outputDir)
  format := .once rfl config.format.isChoice_name
  jobs := .once rfl (isOptional_jobs config.jobs)
  render := .once rfl config.render.given_in_members

/-- The number of jobs is the only number of a configuration, and it is read back as long as it fits into
64 bits.
-/
theorem numbersReadBack_toJson {config : Config} (small : ∀ jobs ∈ config.jobs, jobs < 2 ^ 64)
    : NumbersReadBack config.toJson := by
  have jobs : NumbersReadBack (jobsJson config.jobs) := by
    cases set : config.jobs with
    | none => exact numbersReadBack_null
    | some jobs =>
        have bound : jobs < 2 ^ 64 := small jobs set
        exact numbersReadBack_int (by omega) (by omega)
  have render := config.render.numbersReadBack_toJson
  rw [toJson_eq]
  refine numbersReadBack_object ?_
  simp only [members, List.forall_mem_cons]
  exact ⟨numbersReadBack_ofOption _, numbersReadBack_string _, jobs, render, nofun⟩

/-- A configuration is read back from its compact text and from the text of its JSON file, and any
options are read back from theirs.
-/
theorem json_texts_read_back {config : Config} (small : ∀ jobs ∈ config.jobs, jobs < 2 ^ 64)
    (options : RenderOptions)
    : ofText? .json config.toJson.compact = some config
      ∧ ofText? .json (config.write .json) = some config
      ∧ RenderOptions.ofText? options.toJson.compact = some options
      ∧ RenderOptions.ofText? options.toJson.pretty = some options := by
  have numbers := numbersReadBack_toJson small
  have optionNumbers := options.numbersReadBack_toJson
  exact ⟨ofText?_of_gives numbers.isTextOf_compact config.given_in_members,
    ofText?_of_gives numbers.isTextOf_pretty config.given_in_members,
    RenderOptions.ofText?_of_isTextOf optionNumbers.isTextOf_compact,
    RenderOptions.ofText?_of_isTextOf optionNumbers.isTextOf_pretty⟩

/-- Settings at the limits of what a configuration holds. -/
def textSample : Config where
  outputDir := some ⟨"a \"b\"\\\x00\n\t\u2028/😀"⟩
  format := .json
  jobs := some 18446744073709551615
  render :=
    { gfm := false
      highlightTheme := some ""
      headingIds := .suffixed
      tableMode := .strict }

/-- A configuration with all of its settings changed is read back from both of its texts. -/
theorem json_texts_read_back_of_sample
    : (∀ jobs ∈ textSample.jobs, jobs < 2 ^ 64)
      ∧ ofText? .json textSample.toJson.compact = some textSample
      ∧ ofText? .json (textSample.write .json) = some textSample
      ∧ RenderOptions.ofText? textSample.render.toJson.compact = some textSample.render
      ∧ RenderOptions.ofText? textSample.render.toJson.pretty = some textSample.render := by
  have small : ∀ jobs ∈ textSample.jobs, jobs < 2 ^ 64 := by decide
  exact ⟨small, json_texts_read_back small textSample.render⟩

end Config

end Docpress
