import Docpress.CommandLine.Arguments

/-!
The texts that tell the version and the arguments of the program.
-/

namespace Docpress.CommandLine

/-- The name under which the program is called. -/
def programName : String := "folio"

/-- What a request for the version is answered with. -/
def versionText : String :=
  programName ++ " 0.3.0\n"

/-- The names of an option. -/
def Switch.usage (switch : Switch σ) : String :=
  let short := match switch.short with
    | some c => "-" ++ String.singleton c ++ ", "
    | none => "    "
  let value := match switch.action with
    | .value _ => " <VALUE>"
    | _ => ""
  "  " ++ short ++ "--" ++ switch.long ++ value ++ "\n"

/-- How a command is called, and its options. -/
def Level.usage (level : Level σ) (call : String) : String :=
  "Usage: " ++ programName ++ " " ++ call ++ "\n\nOptions:\n"
    ++ String.join (level.switches.map Switch.usage) ++ "\n"

/-- What a request for help is answered with. -/
def helpText : String :=
  programName ++ ": render Markdown documents to HTML\n\n"
    ++ topLevel.usage "[OPTIONS] <COMMAND>"
    ++ renderLevel.usage "render [OPTIONS] <INPUTS>..."
    ++ stylesheetLevel.usage "stylesheet [OPTIONS]"
    ++ initLevel.usage "init [OPTIONS]"

end Docpress.CommandLine
