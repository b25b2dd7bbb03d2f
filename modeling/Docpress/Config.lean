import Docpress.Config.Format
import Docpress.Document
import Docpress.Path
import Docpress.Toml.Settings
import Docpress.Toml.Writer

/-!
The configuration of a program run, and its two written forms. Both are read as the same record.
-/

namespace Docpress

/-- How documents are rendered and where they go. -/
structure Config where
  /-- The directory of the rendered documents, or none for standard output. -/
  outputDir : Option Path := none
  format : OutputFormat := .html
  /-- How many documents are rendered at a time. -/
  jobs : Option Nat := none
  render : RenderOptions := {}
  deriving Repr, DecidableEq, Inhabited

/-- The lines of a TOML table that set the options. -/
def RenderOptions.toToml (options : RenderOptions) : String :=
  Toml.line "gfm" (Toml.ofBool options.gfm) ++
    Toml.line "structured_tables" (Toml.ofBool options.structuredTables) ++
    Toml.line "highlight_code" (Toml.ofBool options.highlightCode) ++
    Toml.lineOf "highlight_theme" (options.highlightTheme.map Toml.quote) ++
    Toml.lineOf "default_language" (options.defaultLanguage.map Toml.quote) ++
    Toml.line "heading_ids" (Toml.quote options.headingIds.name) ++
    Toml.line "table_mode" (Toml.quote options.tableMode.name)

namespace Config

open SettingSource

/-- The names of the fields in the written forms, in order. -/
def fieldNames : List String :=
  ["output_dir", "format", "jobs", "render"]

/-- The JSON form of a configuration. -/
def toJson (config : Config) : Json :=
  .object
    [("output_dir", .ofOption (config.outputDir.map Path.text)),
      ("format", .string config.format.name),
      ("jobs", match config.jobs with
        | some jobs => .int jobs
        | none => .null),
      ("render", config.render.toJson)]

/-- The TOML form of a configuration. It leaves out what is not set. -/
def toToml (config : Config) : String :=
  Toml.lineOf "output_dir" (config.outputDir.map fun path => Toml.quote path.text) ++
    Toml.line "format" (Toml.quote config.format.name) ++
    Toml.lineOf "jobs" (config.jobs.map toString) ++
    "\n" ++ Toml.header "render" ++ config.render.toToml

/-- The text of a configuration file. -/
def write (config : Config) : ConfigFormat → String
  | .toml => config.toToml
  | .json => config.toJson.pretty

/-- Reads a configuration from a record. What is left out keeps its default. -/
def read? [SettingSource σ] (source : σ) : Option Config :=
  let defaults : Config := {}
  match fields? fieldNames source with
  | some [outputDir, format, jobs, render] => do
    return {
      outputDir := ← settingOr defaults.outputDir (option? fun path => (text? path).map Path.mk) outputDir
      format := ← settingOr defaults.format (choiceOf? OutputFormat.names) format
      jobs := ← settingOr defaults.jobs (option? nat?) jobs
      render := ← settingOr defaults.render RenderOptions.read? render }
  | _ => none

/-- Reads a configuration from the text of a configuration file. -/
def ofText? (format : ConfigFormat) (text : String) : Option Config :=
  match format with
  | .toml => (Toml.ofText? text).bind read?
  | .json => (Json.Source.ofText? text).bind read?

end Config

end Docpress
