import Docpress.Config.Override
import Docpress.Proofs.Config.Given
import Docpress.Proofs.FileSystem.Semantics
import Docpress.Proofs.Program.Init

/-!
The order in which settings are asked for: the flag of the command, the configuration file, the
default. Each setting goes by its own flag and its own place in the file alone.
-/

namespace Docpress

open Json

/-- The value of a flag that rendering or making a style sheet may have, if it is given. -/
def Command.flag? {α : Type} (ofRender : RenderArguments → Option α)
    (ofStylesheet : StylesheetArguments → Option α)
    : Command → Option α
  | .render arguments => ofRender arguments
  | .stylesheet arguments => ofStylesheet arguments
  | .init _ => none

/-- The value of a flag that only rendering has, if it is given. -/
abbrev Command.renderFlag? {α : Type} (flag : RenderArguments → Option α) : Command → Option α :=
  Command.flag? flag fun _ => none

/-- Whether a switch of rendering is on. -/
def Command.hasSwitch (switch : RenderArguments → Bool) : Command → Bool
  | .render arguments => switch arguments
  | _ => false

namespace Config

/-- The value of the flag, or the one of the file, or the default. -/
def firstGiven {α : Type} (flag file : Option α) (default : α) : α :=
  flag.getD (file.getD default)

/-- Each setting is the first one that is given for it. -/
structure Resolved (command : Command) (file : GivenConfig) (config : Config) : Prop where
  outputDir
    : config.outputDir
      = firstGiven ((command.renderFlag? (·.outputDir)).map some) file.outputDir none
  format : config.format = firstGiven (command.renderFlag? (·.format)) file.format .html
  jobs : config.jobs = firstGiven ((command.renderFlag? (·.jobs)).map some) file.jobs none
  highlightTheme
    : config.render.highlightTheme
      = firstGiven ((command.flag? (·.theme) (·.theme)).map some) file.render.highlightTheme none
  headingIds
    : config.render.headingIds
      = firstGiven (command.renderFlag? (·.headingIds)) file.render.headingIds .verbatim
  /-- A switch can only turn highlighting off. -/
  highlightCode
    : config.render.highlightCode = false
      ↔ command.hasSwitch (·.noHighlight) = true ∨ file.render.highlightCode.getD true = false
  /-- A switch can only make tables strict. -/
  tableMode
    : config.render.tableMode = .strict
      ↔ command.hasSwitch (·.strictTables) = true ∨ file.render.tableMode = some .strict
  gfm : config.render.gfm = file.render.gfm.getD true
  structuredTables : config.render.structuredTables = file.render.structuredTables.getD true
  defaultLanguage : config.render.defaultLanguage = file.render.defaultLanguage.getD none

/-- A flag goes before the file, and nothing is set where neither gives a value. -/
theorem orElse_getD {α : Type} (flag : Option α) (file : Option (Option α))
    : (flag <|> file.getD none) = firstGiven (flag.map some) file none := by
  cases flag <;> rfl

/-- Tables are strict if the switch says so or the file does. -/
theorem ite_strict_eq_strict_iff (switch : Bool) (file : Option TableMode)
    : (if switch then TableMode.strict else file.getD .lenient) = .strict
      ↔ switch = true ∨ file = some .strict := by
  cases switch
  · rcases file with _ | _ | _ <;> simp
  · simp

/-- Highlighting is off if the switch says so or the file does. -/
theorem and_not_eq_false_iff (file switch : Bool)
    : (file && !switch) = false ↔ switch = true ∨ file = false := by
  cases switch <;> simp

/-- A file with its defaults filled in, overridden by the command line, is resolved as the precedence
says, one setting after another.
-/
theorem resolved_override (command : Command) (file : GivenConfig)
    : Resolved command file (file.complete.override command) := by
  cases command with
  | render arguments =>
      exact {
        outputDir := orElse_getD arguments.outputDir file.outputDir
        format := rfl
        jobs := orElse_getD arguments.jobs file.jobs
        highlightTheme := orElse_getD arguments.theme file.render.highlightTheme
        headingIds := rfl
        highlightCode :=
          and_not_eq_false_iff (file.render.highlightCode.getD true) arguments.noHighlight
        tableMode := ite_strict_eq_strict_iff arguments.strictTables file.render.tableMode
        gfm := rfl
        structuredTables := rfl
        defaultLanguage := rfl }
  | stylesheet arguments =>
      -- A style sheet has a theme from the command line, and nothing else.
      exact {
        outputDir := rfl
        format := rfl
        jobs := rfl
        highlightTheme := orElse_getD arguments.theme file.render.highlightTheme
        headingIds := rfl
        highlightCode := (or_iff_right Bool.false_ne_true).symm
        tableMode := ite_strict_eq_strict_iff false file.render.tableMode
        gfm := rfl
        structuredTables := rfl
        defaultLanguage := rfl }
  | init arguments =>
      -- Making a configuration file overrides nothing.
      exact {
        outputDir := rfl
        format := rfl
        jobs := rfl
        highlightTheme := rfl
        headingIds := rfl
        highlightCode := (or_iff_right Bool.false_ne_true).symm
        tableMode := ite_strict_eq_strict_iff false file.render.tableMode
        gfm := rfl
        structuredTables := rfl
        defaultLanguage := rfl }

/-- A flag that is put before itself makes no difference. -/
theorem orElse_orElse_self {α : Type} (flag file : Option α)
    : (flag <|> flag <|> file) = (flag <|> file) := by
  cases flag <;> rfl

/-- A default that is replaced by a flag twice is the flag still. -/
theorem getD_getD_self {α : Type} (flag : Option α) (file : α)
    : flag.getD (flag.getD file) = flag.getD file := by
  cases flag <;> rfl

/-- The same arguments once more make no difference. -/
theorem override_override (config : Config) (command : Command)
    : (config.override command).override command = config.override command := by
  cases command with
  | render arguments =>
      simp only [override, overrideRender, orElse_orElse_self, getD_getD_self, Bool.and_assoc,
        Bool.and_self]
      cases arguments.strictTables <;> rfl
  | stylesheet arguments => simp only [override, orElse_orElse_self]
  | init arguments => rfl

/-- What the configuration file of a command line gives, which is a JSON file with each setting once
at most. Without a file nothing is given.
-/
inductive FileGives (files : FileTree) : Option Path → GivenConfig → Prop where
  | noFile
    : FileGives files none {}
  | json {path : Path} {extension text : String} {members : List (String × Json)}
    {file : GivenConfig}
    (named : path.extension? = some extension)
    (isJson : Text.lowercaseString extension = "json")
    (held : files.readText path = .ok text) (isText : IsTextOf text (.object members))
    (gives : file.In members)
    : FileGives files (some path) file

/-- A JSON file is read as what it gives, completed with the defaults. -/
theorem ofFileText_of_gives {path : Path} {text : String} {members : List (String × Json)}
    {file : GivenConfig} (isFormat : formatOf path = .ok .json)
    (isText : IsTextOf text (.object members)) (gives : file.In members)
    : ofFileText path text = .ok file.complete := by
  have read := ofText?_of_gives isText gives
  simp only [ofFileText, isFormat, bind, Except.bind, read]
  rfl

/-- Loading the file of a command line comes to what the file gives, and to the defaults if there is
none. No file is changed.
-/
theorem load_of_gives {files : FileTree} {path : Path} {file : GivenConfig}
    (gives : FileGives files (some path) file)
    : (load path : StateM FileTree _).run files = (.ok file.complete, files) := by
  cases gives with
  | json named isJson held isText gives =>
      have isFormat : formatOf path = .ok .json := by
        rw [formatOf, named]
        dsimp only
        rw [isJson]
        rfl
      rw [load_run, held]
      exact congrArg (·, files) (ofFileText_of_gives isFormat isText gives)

/-- The configuration of a command line with a JSON file, or with none, is there, and each of its
settings is that of the flag, or that of the file, or the default. The flags make no difference a
second time.
-/
theorem settings_resolved {line : CommandLine} {files : FileTree} {file : GivenConfig}
    (gives : FileGives files line.configFile file)
    : ∃ config : Config,
        (resolve line : StateM FileTree _).run files = (.ok config, files)
        ∧ Resolved line.command file config
        ∧ config.override line.command = config := by
  refine ⟨file.complete.override line.command, ?_, resolved_override line.command file,
    override_override _ _⟩
  unfold resolve
  cases named : line.configFile with
  | none =>
      rw [named] at gives
      cases gives
      rfl
  | some path =>
      rw [named] at gives
      dsimp only
      rw [StateT.run_bind, load_of_gives gives]
      rfl

/-- A file with some of the settings in no order, between members that have no meaning. -/
def fileSample : Json :=
  .object
    [("jobs", .int 3), ("note", .string "\x00"), ("format", .object [("json", .null)]),
      ("note", .int (-1)),
      ("render", .object
        [("table_mode", .string "strict"), ("theme", .null), ("highlight_theme", .string "Nord"),
          ("highlight_code", .bool false)]),
      ("Format", .bool true), ("output_dir", .null)]

/-- What the file gives. -/
def givenSample : GivenConfig where
  outputDir := some none
  format := some .json
  jobs := some (some 3)
  render :=
    { highlightCode := some false
      highlightTheme := some (some "Nord")
      tableMode := some .strict }

/-- The file under a name with the extension in upper case. -/
def filesSample : FileTree where
  entries := [(["site.JSON"], .file fileSample.pretty.toUTF8)]

/-- A command with some of the flags. -/
def lineSample : CommandLine where
  configFile := some ⟨"site.JSON"⟩
  command :=
    .render { outputDir := some ⟨"out"⟩, theme := some "Dracula", headingIds := some .suffixed }

/-- The numbers in the sample of a configuration file are read back. -/
theorem numbersReadBack_fileSample : NumbersReadBack fileSample := by
  have three : NumbersReadBack (.int 3) := numbersReadBack_int (by decide) (by decide)
  have minusOne : NumbersReadBack (.int (-1)) := numbersReadBack_int (by decide) (by decide)
  have format : NumbersReadBack (.object [("json", .null)]) :=
    numbersReadBack_object (by simp [numbersReadBack_null])
  have render
      : NumbersReadBack
          (.object
            [("table_mode", .string "strict"), ("theme", .null),
              ("highlight_theme", .string "Nord"), ("highlight_code", .bool false)]) :=
    numbersReadBack_object
      (by simp [numbersReadBack_string, numbersReadBack_null, numbersReadBack_bool])
  refine numbersReadBack_object ?_
  simp only [List.forall_mem_cons]
  exact ⟨three, numbersReadBack_string _, format, minusOne, render, numbersReadBack_bool true,
    numbersReadBack_null, nofun⟩

/-- The sample gives the format in the form of an object, null for the output directory and some of the
options, with keys that are no settings in between.
-/
theorem fileGives_sample : FileGives filesSample (some ⟨"site.JSON"⟩) givenSample := by
  have named : (⟨"site.JSON"⟩ : Path).extension? = some "JSON" := by decide +kernel
  have isJson : Text.lowercaseString "JSON" = "json" := by decide +kernel
  have pieces : (⟨"site.JSON"⟩ : Path).pieces = [] ++ ["site.JSON"] := by decide +kernel
  have place : filesSample.FilePlace ⟨"site.JSON"⟩ ([] ++ ["site.JSON"]) :=
    .intro pieces ⟨rfl, by decide⟩ rfl rfl
  have held : filesSample.readText ⟨"site.JSON"⟩ = .ok fileSample.pretty := place.readText rfl
  have isText : IsTextOf fileSample.pretty fileSample := numbersReadBack_fileSample.isTextOf_pretty
  refine .json named isJson held isText ?_
  exact {
    outputDir := .once rfl .unset
    format := .once rfl (.key (by decide))
    jobs := .once rfl (.given nofun (.intro 3))
    render := .once rfl {
      gfm := .absent (by decide)
      structuredTables := .absent (by decide)
      highlightCode := .once rfl (.intro false)
      highlightTheme := .once rfl (.given nofun (.intro "Nord"))
      defaultLanguage := .absent (by decide)
      headingIds := .absent (by decide)
      tableMode := .once rfl (.name (by decide)) } }

/-- The sample's settings are resolved for a command line that overrides some of them. -/
theorem settings_resolved_of_sample
    : FileGives filesSample lineSample.configFile givenSample
      ∧ ∃ config : Config,
          (resolve lineSample : StateM FileTree _).run filesSample = (.ok config, filesSample)
          ∧ Resolved lineSample.command givenSample config
          ∧ config.override lineSample.command = config :=
  ⟨fileGives_sample, settings_resolved fileGives_sample⟩

end Config

end Docpress
