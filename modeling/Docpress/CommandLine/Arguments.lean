import Docpress.CommandLine.Command
import Docpress.CommandLine.Level
import Docpress.Text.Digit

/-!
The arguments of the program and of its commands, and the command lines that they make.
-/

namespace Docpress.CommandLine

open Text

/-- The arguments that the program and all its commands take. -/
structure Globals where
  verbose : Bool := false
  configFile : Option Path := none
  deriving Repr, DecidableEq, Inhabited

/-- The arguments of a command together with those that all commands take. -/
structure WithGlobals (α : Type) where
  globals : Globals := {}
  own : α

/-- A path. It must not be empty. -/
def path (text : String) : Except Usage Path :=
  if text.isEmpty then .error .invalidValue else .ok ⟨text⟩

/-- One of a list of named values. -/
def choice (choices : List (String × α)) (text : String) : Except Usage α :=
  match choices.lookup text with
  | some value => .ok value
  | none => .error .invalidValue

/-- The largest number that an option takes, which is the largest number of 64 bits. -/
def maxNumber : Nat := 18446744073709551615

/-- A number: decimal digits, with or without a plus sign. -/
def number (text : String) : Except Usage Nat :=
  let digits := match text.toList with
    | '+' :: digits => digits
    | digits => digits
  let value := natOfDigits digits
  if !digits.isEmpty && digits.all Char.isDigit && value ≤ maxNumber then
    .ok value
  else
    .error .invalidNumber

/-- An option with a value that belongs to one command. -/
def own (read : String → Except Usage β) (set : α → β → α) : Action (WithGlobals α) :=
  .value fun text settings => do
    return { settings with own := set settings.own (← read text) }

/-- An option without value that belongs to one command. -/
def ownFlag (set : α → α) : Action (WithGlobals α) :=
  .flag fun settings => { settings with own := set settings.own }

/-- The options that all levels have. -/
def globalSwitches : List (Switch (WithGlobals α)) :=
  [{ short := some 'v', long := "verbose",
      action := .flag fun settings => { settings with globals.verbose := true } },
    { short := some 'c', long := "config-file",
      action := .value fun text settings => do
        return { settings with globals.configFile := some (← path text) } },
    { short := some 'h', long := "help", action := .stop .help }]

/-- The arguments of the command that renders documents. -/
def renderLevel : Level (WithGlobals RenderArguments) where
  switches := globalSwitches ++
    [{ short := some 'o', long := "output-dir",
        action := own path fun arguments value => { arguments with outputDir := some value } },
      { short := some 'F', long := "format",
        action := own (choice OutputFormat.names) fun arguments value =>
          { arguments with format := some value } },
      { short := some 't', long := "theme",
        action := own .ok fun arguments value => { arguments with theme := some value } },
      { long := "no-highlight",
        action := ownFlag fun arguments => { arguments with noHighlight := true } },
      { long := "strict-tables",
        action := ownFlag fun arguments => { arguments with strictTables := true } },
      { long := "heading-ids",
        action := own (choice HeadingIds.names) fun arguments value =>
          { arguments with headingIds := some value } },
      { short := some 'j', long := "jobs",
        action := own number fun arguments value => { arguments with jobs := some value } }]
  operand := some fun text settings => do
    let input ← path text
    return { settings with own.inputs := settings.own.inputs ++ [input] }

/-- The arguments of the command that makes a style sheet. -/
def stylesheetLevel : Level (WithGlobals StylesheetArguments) where
  switches := globalSwitches ++
    [{ short := some 't', long := "theme",
        action := own .ok fun arguments value => { arguments with theme := some value } },
      { short := some 'o', long := "output",
        action := own path fun arguments value => { arguments with output := some value } }]

/-- The arguments of the command that makes a configuration file. -/
def initLevel : Level (WithGlobals InitArguments) where
  switches := globalSwitches ++
    [{ short := some 'o', long := "output",
        action := own path fun arguments value => { arguments with output := value } },
      { short := some 'F', long := "format",
        action := own (choice ConfigFormat.names) fun arguments value =>
          { arguments with format := value } },
      { short := some 'f', long := "force",
        action := ownFlag fun arguments => { arguments with force := true } }]

/-- The names of the commands, and of the one that asks for help. -/
def commandNames : List String :=
  ["render", "stylesheet", "init", "help"]

/-- The arguments before the command. -/
def topLevel : Level (WithGlobals Unit) where
  switches := globalSwitches ++ [{ short := some 'V', long := "version", action := .stop .version }]
  commands := commandNames

/-- What becomes of a request for help on a command. -/
def helpOn : List String → Usage
  | [] => .help
  | [name] => if commandNames.contains name then .help else .unknownCommand
  | _ => .unknownCommand

/-- Reads the arguments behind the name of a command. -/
def readCommand (name : String) (arguments : List String) : Except Usage (Globals × Command) := do
  match name with
  | "render" =>
    let settings ← renderLevel.readAll { own := {} } arguments
    if settings.own.inputs.isEmpty then
      throw .missingArgument
    else
      return (settings.globals, .render settings.own)
  | "stylesheet" =>
    let settings ← stylesheetLevel.readAll { own := {} } arguments
    return (settings.globals, .stylesheet settings.own)
  | "init" =>
    let settings ← initLevel.readAll { own := {} } arguments
    return (settings.globals, .init settings.own)
  | _ => throw (helpOn arguments)

/-- Reads a command line from its arguments. What a command says of the arguments that all commands
take stands before what is said in front of it.
-/
def ofArguments (arguments : List String) : Except Usage CommandLine := do
  let (top, command) ← topLevel.read false { settings := { own := () } } arguments
  match command with
  | none =>
    if (← top.settle).given.isEmpty then throw .helpOnNoArguments else throw .missingCommand
  | some (name, rest) =>
    let (globals, command) ← readCommand name rest
    let outer := (← top.settle).settings.globals
    return {
      verbose := outer.verbose || globals.verbose
      configFile := globals.configFile <|> outer.configFile
      command := command }

end Docpress.CommandLine
