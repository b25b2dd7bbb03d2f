import Docpress.Slug
import Docpress.Json.Settings

/-!
The options of parsing and rendering, and their JSON form.
-/

namespace Docpress

/-- Whether tables with rows of the wrong length are accepted. -/
inductive TableMode where
  /-- Rows are rendered as given. -/
  | lenient
  /-- A row whose length is not that of the headers is an error. -/
  | strict
  deriving Repr, DecidableEq, Inhabited

/-- The names of the table modes. -/
def TableMode.names : List (String × TableMode) :=
  [("lenient", .lenient), ("strict", .strict)]

/-- The name of a table mode. -/
def TableMode.name : TableMode → String
  | .lenient => "lenient"
  | .strict => "strict"

/-- The names of the heading id policies. -/
def HeadingIds.names : List (String × HeadingIds) :=
  [("verbatim", .verbatim), ("suffixed", .suffixed)]

/-- The name of a heading id policy. -/
def HeadingIds.name : HeadingIds → String
  | .verbatim => "verbatim"
  | .suffixed => "suffixed"

/-- How a document is parsed and rendered. -/
structure RenderOptions where
  /-- Whether tables, strikethrough, task lists and bare links are recognised. -/
  gfm : Bool := true
  /-- Whether code blocks marked as tables are read as tables. -/
  structuredTables : Bool := true
  /-- Whether code is highlighted. -/
  highlightCode : Bool := true
  /-- The theme of the style sheet. -/
  highlightTheme : Option String := none
  /-- The language of code that names none. -/
  defaultLanguage : Option String := none
  headingIds : HeadingIds := .verbatim
  tableMode : TableMode := .lenient
  deriving Repr, DecidableEq, Inhabited

namespace RenderOptions

open SettingSource

/-- The names of the options in the JSON form, in order. -/
def fieldNames : List String :=
  ["gfm", "structured_tables", "highlight_code", "highlight_theme", "default_language",
    "heading_ids", "table_mode"]

/-- The JSON form of the options. -/
def toJson (options : RenderOptions) : Json :=
  .object
    [("gfm", .bool options.gfm),
      ("structured_tables", .bool options.structuredTables),
      ("highlight_code", .bool options.highlightCode),
      ("highlight_theme", .ofOption options.highlightTheme),
      ("default_language", .ofOption options.defaultLanguage),
      ("heading_ids", .string options.headingIds.name),
      ("table_mode", .string options.tableMode.name)]

/-- Reads options from a record. What is left out keeps its default. -/
def read? [SettingSource σ] (source : σ) : Option RenderOptions :=
  let defaults : RenderOptions := {}
  match SettingSource.fields? fieldNames source with
  | some [gfm, structuredTables, highlightCode, highlightTheme, defaultLanguage, headingIds,
      tableMode] => do
    return {
      gfm := ← settingOr defaults.gfm bool? gfm
      structuredTables := ← settingOr defaults.structuredTables bool? structuredTables
      highlightCode := ← settingOr defaults.highlightCode bool? highlightCode
      highlightTheme := ← settingOr defaults.highlightTheme (option? text?) highlightTheme
      defaultLanguage := ← settingOr defaults.defaultLanguage (option? text?) defaultLanguage
      headingIds := ← settingOr defaults.headingIds (choiceOf? HeadingIds.names) headingIds
      tableMode := ← settingOr defaults.tableMode (choiceOf? TableMode.names) tableMode }
  | _ => none

/-- Reads options from JSON text. -/
def ofText? (text : String) : Option RenderOptions :=
  (Json.Source.ofText? text).bind read?

end RenderOptions

end Docpress
