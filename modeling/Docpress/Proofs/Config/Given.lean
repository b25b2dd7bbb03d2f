import Docpress.Config
import Docpress.Proofs.Json.Records

/-!
Configurations that JSON objects give. An object gives some of the settings, and those that it leaves
out keep their defaults.
-/

namespace Docpress

open Json

-----------------------------------------------------------------------------------------
-- Options
-----------------------------------------------------------------------------------------

/-- The options of a record, each if it is given. -/
structure GivenOptions where
  gfm : Option Bool := none
  structuredTables : Option Bool := none
  highlightCode : Option Bool := none
  highlightTheme : Option (Option String) := none
  defaultLanguage : Option (Option String) := none
  headingIds : Option HeadingIds := none
  tableMode : Option TableMode := none

namespace GivenOptions

/-- The options that are given, and the defaults in place of the others. -/
def complete (given : GivenOptions) : RenderOptions where
  gfm := given.gfm.getD true
  structuredTables := given.structuredTables.getD true
  highlightCode := given.highlightCode.getD true
  highlightTheme := given.highlightTheme.getD none
  defaultLanguage := given.defaultLanguage.getD none
  headingIds := given.headingIds.getD .verbatim
  tableMode := given.tableMode.getD .lenient

/-- The members of an object give these options, each once at most. Other members may be there. -/
structure In (members : List (String × Json)) (given : GivenOptions) : Prop where
  gfm : Gives members "gfm" IsBool given.gfm
  structuredTables : Gives members "structured_tables" IsBool given.structuredTables
  highlightCode : Gives members "highlight_code" IsBool given.highlightCode
  highlightTheme : Gives members "highlight_theme" (IsOptional IsText) given.highlightTheme
  defaultLanguage : Gives members "default_language" (IsOptional IsText) given.defaultLanguage
  headingIds : Gives members "heading_ids" (IsChoice HeadingIds.names) given.headingIds
  tableMode : Gives members "table_mode" (IsChoice TableMode.names) given.tableMode

end GivenOptions

/-- An object that gives options. -/
inductive IsOptions : Json → RenderOptions → Prop where
  | intro {members : List (String × Json)} {given : GivenOptions} (gives : given.In members)
    : IsOptions (.object members) given.complete

/-- The reader of heading policies takes their names. -/
theorem takes_headingIds
    : Takes (SettingSource.choiceOf? HeadingIds.names) (IsChoice HeadingIds.names) :=
  takes_choice (by decide)

/-- The reader of table modes takes their names. -/
theorem takes_tableMode
    : Takes (SettingSource.choiceOf? TableMode.names) (IsChoice TableMode.names) :=
  takes_choice (by decide)

/-- The reader of options takes an object that gives each option once at most, and completes it with the
defaults of those that are left out. Each option is found among the members by itself.
-/
theorem takes_options : Takes RenderOptions.read? IsOptions := by
  intro source value options means valid
  cases valid with
  | @intro members given gives =>
      cases means.writtenAs with
      | @object sources _ pairs =>
          obtain ⟨gfm, foundGfm, readGfm⟩ := gives.gfm.exists_field pairs takes_bool
          obtain ⟨tables, foundTables, readTables⟩ :=
            gives.structuredTables.exists_field pairs takes_bool
          obtain ⟨code, foundCode, readCode⟩ := gives.highlightCode.exists_field pairs takes_bool
          obtain ⟨theme, foundTheme, readTheme⟩ :=
            gives.highlightTheme.exists_field pairs takes_text.optional
          obtain ⟨language, foundLanguage, readLanguage⟩ :=
            gives.defaultLanguage.exists_field pairs takes_text.optional
          obtain ⟨ids, foundIds, readIds⟩ := gives.headingIds.exists_field pairs takes_headingIds
          obtain ⟨mode, foundMode, readMode⟩ := gives.tableMode.exists_field pairs takes_tableMode
          -- The fields are found apart from each other, whatever the order of the members is.
          have fields
              : SettingSource.fields? RenderOptions.fieldNames (Source.object sources)
                = some [gfm, tables, code, theme, language, ids, mode] := by
            simp [SettingSource.fields?, Source.fields?, named_of_forall₂ pairs,
              RenderOptions.fieldNames, foundGfm, foundTables, foundCode, foundTheme, foundLanguage,
              foundIds, foundMode]
          unfold RenderOptions.read?
          dsimp only
          rw [fields]
          simp [readGfm, readTables, readCode, readTheme, readLanguage, readIds, readMode,
            GivenOptions.complete]

-----------------------------------------------------------------------------------------
-- Configurations
-----------------------------------------------------------------------------------------

/-- The settings of a configuration, each if it is given. -/
structure GivenConfig where
  outputDir : Option (Option Path) := none
  format : Option OutputFormat := none
  jobs : Option (Option Nat) := none
  render : GivenOptions := {}

/-- A path, as its text. -/
inductive IsPath : Json → Path → Prop where
  | intro (path : Path)
    : IsPath (.string path.text) path

namespace GivenConfig

/-- The settings that are given, and the defaults in place of the others. -/
def complete (given : GivenConfig) : Config where
  outputDir := given.outputDir.getD none
  format := given.format.getD .html
  jobs := given.jobs.getD none
  render := given.render.complete

/-- The members of an object give these options in an object of their own, or have none. -/
inductive OptionsIn (members : List (String × Json)) : GivenOptions → Prop where
  | absent (unset : ∀ member ∈ members, member.1 ≠ "render")
    : OptionsIn members {}
  | once {inner : List (String × Json)} {given : GivenOptions}
    (only : members.filter (·.1 = "render") = [("render", .object inner)]) (gives : given.In inner)
    : OptionsIn members given

/-- The members of an object give these settings, each once at most. Other members may be there. -/
structure In (members : List (String × Json)) (given : GivenConfig) : Prop where
  outputDir : Gives members "output_dir" (IsOptional IsPath) given.outputDir
  format : Gives members "format" (IsChoice OutputFormat.names) given.format
  jobs : Gives members "jobs" (IsOptional IsNat) given.jobs
  render : OptionsIn members given.render

/-- Options that are given under a key, or left out together with the key, come to what is given of them
completed with the defaults.
-/
theorem OptionsIn.exists_gives {members : List (String × Json)} {given : GivenOptions}
    (gives : OptionsIn members given)
    : ∃ options, Gives members "render" IsOptions options ∧ options.getD {} = given.complete := by
  cases gives with
  | absent unset => exact ⟨none, .absent unset, rfl⟩
  | once only gives => exact ⟨some given.complete, .once only (.intro gives), rfl⟩

end GivenConfig

/-- The reader of paths takes strings, any string. -/
theorem takes_path
    : Takes (fun source => (SettingSource.text? source).map Path.mk) IsPath := by
  intro source value result means valid
  cases valid
  cases means.writtenAs
  rfl

/-- The reader of output formats takes their names. -/
theorem takes_format
    : Takes (SettingSource.choiceOf? OutputFormat.names) (IsChoice OutputFormat.names) :=
  takes_choice (by decide)

namespace Config

/-- A configuration is read from an object that gives each setting once at most, completed with the
defaults of those that are left out.
-/
theorem read?_of_gives {source : Source} {members : List (String × Json)} {given : GivenConfig}
    (means : Means source (.object members)) (gives : given.In members)
    : read? source = some given.complete := by
  cases means.writtenAs with
  | @object sources _ pairs =>
      obtain ⟨outputDir, foundDir, readDir⟩ :=
        gives.outputDir.exists_field pairs takes_path.optional
      obtain ⟨format, foundFormat, readFormat⟩ := gives.format.exists_field pairs takes_format
      obtain ⟨jobs, foundJobs, readJobs⟩ := gives.jobs.exists_field pairs takes_nat.optional
      obtain ⟨options, givesOptions, complete⟩ := gives.render.exists_gives
      obtain ⟨render, foundRender, readRender⟩ := givesOptions.exists_field pairs takes_options
      have fields
          : SettingSource.fields? fieldNames (Source.object sources)
            = some [outputDir, format, jobs, render] := by
        simp [SettingSource.fields?, Source.fields?, named_of_forall₂ pairs, fieldNames, foundDir,
          foundFormat, foundJobs, foundRender]
      unfold read?
      dsimp only
      rw [fields]
      simp [readDir, readFormat, readJobs, readRender, complete, GivenConfig.complete]

/-- The text of an object that gives settings is read as these and the defaults of the others. -/
theorem ofText?_of_gives {text : String} {members : List (String × Json)} {given : GivenConfig}
    (isText : IsTextOf text (.object members)) (gives : given.In members)
    : ofText? .json text = some given.complete := by
  obtain ⟨source, known, means⟩ := isText.exists_source
  rw [ofText?, known]
  exact read?_of_gives means gives

end Config

end Docpress
