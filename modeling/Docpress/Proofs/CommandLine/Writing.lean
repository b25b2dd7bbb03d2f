import Docpress.CommandLine.Arguments
import Docpress.Proofs.CommandLine.LongOptions

/-!
Command lines written out in long options. The options that all commands take stand in front of the
command or among its own options, which stand in any order; the inputs stand behind the mark before
operands. No option is written twice.
-/

namespace Docpress

open CommandLine

namespace CommandLine

/-- A flag is written if it is set. -/
def writtenFlag (name : String) (set : Bool) : List LongOption :=
  if set then [{ name := name }] else []

/-- An option with a value is written if there is a value. -/
def writtenValue {α : Type} (name : String) (text : α → String) (value : Option α)
    : List LongOption :=
  value.toList.map fun value => { name := name, value := some (text value) }

/-- The options that say what all commands take. -/
def Globals.options (globals : Globals) : List LongOption :=
  writtenFlag "verbose" globals.verbose
    ++ writtenValue "config-file" Path.text globals.configFile

end CommandLine

/-- The options that say how documents are rendered. -/
def RenderArguments.options (arguments : RenderArguments) : List LongOption :=
  writtenValue "output-dir" Path.text arguments.outputDir
    ++ writtenValue "format" OutputFormat.name arguments.format
    ++ writtenValue "theme" id arguments.theme
    ++ writtenFlag "no-highlight" arguments.noHighlight
    ++ writtenFlag "strict-tables" arguments.strictTables
    ++ writtenValue "heading-ids" HeadingIds.name arguments.headingIds
    ++ writtenValue "jobs" toString arguments.jobs

/-- The options that say which style sheet is made. -/
def StylesheetArguments.options (arguments : StylesheetArguments) : List LongOption :=
  writtenValue "theme" id arguments.theme
    ++ writtenValue "output" Path.text arguments.output

/-- The options that say which configuration file is made. -/
def InitArguments.options (arguments : InitArguments) : List LongOption :=
  writtenValue "output" Path.text (some arguments.output)
    ++ writtenValue "format" ConfigFormat.name (some arguments.format)
    ++ writtenFlag "force" arguments.force

namespace Command

/-- The name of a command. -/
def name : Command → String
  | .render _ => "render"
  | .stylesheet _ => "stylesheet"
  | .init _ => "init"

/-- The options of a command of its own. -/
def options : Command → List LongOption
  | .render arguments => arguments.options
  | .stylesheet arguments => arguments.options
  | .init arguments => arguments.options

/-- The names of the options that a command has of its own. -/
def optionNames : Command → List String
  | .render _ =>
    ["output-dir", "format", "theme", "no-highlight", "strict-tables", "heading-ids", "jobs"]
  | .stylesheet _ => ["theme", "output"]
  | .init _ => ["output", "format", "force"]

/-- The options of a command that say no more than its defaults do. -/
def spareOptions : Command → List LongOption
  | .init _ => ({} : InitArguments).options
  | _ => []

/-- What stands behind the options of a command: the inputs, behind the mark before operands. -/
def operands : Command → List String
  | .render arguments => "--" :: arguments.inputs.map Path.text
  | _ => []

end Command

namespace CommandLine

/-- What a command line says to all commands. -/
def globals (line : CommandLine) : Globals where
  verbose := line.verbose
  configFile := line.configFile

/-- A way to write out a command line. -/
structure Writing (line : CommandLine) where
  /-- The options in front of the command. -/
  before : List LongOption
  /-- The options for all commands that stand behind the command. -/
  after : List LongOption
  /-- The command's own options, but for those that are left out. -/
  own : List LongOption
  /-- The options that are left out. They say no more than the defaults. -/
  omitted : List LongOption := []
  /-- The options behind the command, in the order in which they stand. -/
  behind : List LongOption
  placed : (before ++ after).Perm line.globals.options
  complete : (own ++ omitted).Perm line.command.options
  spare : omitted ⊆ line.command.spareOptions
  order : behind.Perm (after ++ own)

/-- The arguments that a command line is written as. -/
def Writing.arguments {line : CommandLine} (writing : line.Writing) : List String :=
  writing.before.map LongOption.argument
    ++ line.command.name
      :: (writing.behind.map LongOption.argument ++ line.command.operands)

/-- Every command line can be written out, with all its options behind the command. -/
def Writing.standard (line : CommandLine) : line.Writing where
  before := []
  after := line.globals.options
  own := line.command.options
  behind := line.globals.options ++ line.command.options
  placed := .refl _
  complete := .of_eq (List.append_nil _)
  spare := List.nil_subset _
  order := .refl _

-----------------------------------------------------------------------------------------
-- The names of the options that are written
-----------------------------------------------------------------------------------------

section

variable {name : String}

/-- What holds of a written flag holds of its name, if the flag is set. -/
theorem forall_mem_writtenFlag {set : Bool} {holds : LongOption → Prop}
    : (∀ option ∈ writtenFlag name set, holds option) ↔ (set = true → holds { name := name }) := by
  cases set <;> simp [writtenFlag]

/-- What holds of a written value holds of its name and text, if there is a value. -/
theorem forall_mem_writtenValue {α : Type} {text : α → String} {value : Option α}
    {holds : LongOption → Prop}
    : (∀ option ∈ writtenValue name text value, holds option)
      ↔ ∀ given, value = some given → holds { name := name, value := some (text given) } := by
  cases value <;> simp [writtenValue]

/-- A written flag has its own name and no other. -/
theorem names_writtenFlag (name : String) (set : Bool)
    : ((writtenFlag name set).map LongOption.name).Sublist [name] := by
  cases set <;> simp [writtenFlag]

/-- A written value has its own name and no other. -/
theorem names_writtenValue {α : Type} (name : String) (text : α → String) (value : Option α)
    : ((writtenValue name text value).map LongOption.name).Sublist [name] := by
  cases value <;> simp [writtenValue]

end

/-- The global options have two names at most, each of them once. -/
theorem Globals.names_options (globals : Globals)
    : (globals.options.map LongOption.name).Sublist ["verbose", "config-file"] := by
  rw [options, List.map_append]
  exact (names_writtenFlag _ _).append (names_writtenValue _ _ _)

/-- The options of a command have the names that it knows, each of them once at most. -/
theorem names_options (command : Command)
    : (command.options.map LongOption.name).Sublist command.optionNames := by
  cases command with
  | render arguments =>
      simp only [Command.options, RenderArguments.options, List.map_append]
      exact (((((names_writtenValue _ _ _).append (names_writtenValue _ _ _)).append
        (names_writtenValue _ _ _)).append (names_writtenFlag _ _)).append
          (names_writtenFlag _ _)).append (names_writtenValue _ _ _) |>.append
            (names_writtenValue _ _ _)
  | stylesheet arguments =>
      simp only [Command.options, StylesheetArguments.options, List.map_append]
      exact (names_writtenValue _ _ _).append (names_writtenValue _ _ _)
  | init arguments =>
      simp only [Command.options, InitArguments.options, List.map_append]
      exact ((names_writtenValue _ _ _).append (names_writtenValue _ _ _)).append
        (names_writtenFlag _ _)

/-- No option of a command has the name of a global one, and all of them differ. -/
theorem nodup_optionNames (command : Command)
    : ("verbose" :: "config-file" :: command.optionNames).Nodup := by
  cases command <;> simp [Command.optionNames]

variable {line : CommandLine} (writing : line.Writing)

/-- No option is written twice, in front of the command or behind it. -/
theorem Writing.nodup_names
    : (writing.before.map LongOption.name).Nodup ∧ (writing.behind.map LongOption.name).Nodup := by
  have all : ((line.globals.options ++ line.command.options).map LongOption.name).Nodup := by
    rw [List.map_append]
    exact (nodup_optionNames line.command).sublist
      (line.globals.names_options.append (names_options line.command))
  have parts
      : ((writing.before ++ writing.after ++ (writing.own ++ writing.omitted)).map
          LongOption.name).Nodup :=
    ((writing.placed.append writing.complete).map LongOption.name).nodup_iff.mpr all
  have front : writing.before.Sublist
      (writing.before ++ writing.after ++ (writing.own ++ writing.omitted)) :=
    (List.sublist_append_left _ _).trans (List.sublist_append_left _ _)
  have back : (writing.after ++ writing.own).Sublist
      (writing.before ++ writing.after ++ (writing.own ++ writing.omitted)) :=
    (List.sublist_append_right _ _).append (List.sublist_append_left _ _)
  exact ⟨parts.sublist (front.map _),
    (writing.order.map LongOption.name).nodup_iff.mpr (parts.sublist (back.map _))⟩

/-- In front of the command stand global options only. -/
theorem Writing.mem_before {option : LongOption} (listed : option ∈ writing.before)
    : option ∈ line.globals.options :=
  writing.placed.subset (List.mem_append_left _ listed)

/-- Behind the command stand global options and its own. -/
theorem Writing.mem_behind {option : LongOption} (listed : option ∈ writing.behind)
    : option ∈ line.globals.options ∨ option ∈ line.command.options := by
  rcases List.mem_append.mp (writing.order.subset listed) with after | own
  · exact .inl (writing.placed.subset (List.mem_append_right _ after))
  · exact .inr (writing.complete.subset (List.mem_append_left _ own))

/-- Each global option is written, in front of the command or behind it. -/
theorem Writing.globals_written {option : LongOption} (listed : option ∈ line.globals.options)
    : option ∈ writing.before ∨ option ∈ writing.behind := by
  rcases List.mem_append.mp (writing.placed.mem_iff.mpr listed) with before | after
  · exact .inl before
  · exact .inr (writing.order.mem_iff.mpr (List.mem_append_left _ after))

/-- Each option of a command is written, unless it is spare. -/
theorem Writing.own_written {option : LongOption} (listed : option ∈ line.command.options)
    : option ∈ writing.behind ∨ option ∈ line.command.spareOptions := by
  rcases List.mem_append.mp (writing.complete.mem_iff.mpr listed) with own | omitted
  · exact .inl (writing.order.mem_iff.mpr (List.mem_append_right _ own))
  · exact .inr (writing.spare omitted)

end CommandLine

end Docpress
