import Docpress.Config.Format
import Docpress.Document
import Docpress.Path

/-!
What a command line asks for.
-/

namespace Docpress

/-- The arguments of the command that renders documents. What is not given is left to the configuration.
-/
structure RenderArguments where
  inputs : List Path := []
  outputDir : Option Path := none
  format : Option OutputFormat := none
  theme : Option String := none
  noHighlight : Bool := false
  strictTables : Bool := false
  headingIds : Option HeadingIds := none
  jobs : Option Nat := none
  deriving Repr, DecidableEq, Inhabited

/-- The arguments of the command that makes a style sheet. -/
structure StylesheetArguments where
  theme : Option String := none
  /-- The file to write to, or none for standard output. -/
  output : Option Path := none
  deriving Repr, DecidableEq, Inhabited

/-- The arguments of the command that makes a configuration file. -/
structure InitArguments where
  output : Path := ⟨"folio.toml"⟩
  format : ConfigFormat := .toml
  /-- Whether a file that is there is overwritten. -/
  force : Bool := false
  deriving Repr, DecidableEq, Inhabited

/-- A command and its arguments. -/
inductive Command where
  /-- Renders documents. -/
  | render (arguments : RenderArguments)
  /-- Makes the style sheet of highlighted code. -/
  | stylesheet (arguments : StylesheetArguments)
  /-- Makes a configuration file. -/
  | init (arguments : InitArguments)
  deriving Repr, DecidableEq, Inhabited

/-- A command with the arguments that every command takes. -/
structure CommandLine where
  /-- Whether more is logged. -/
  verbose : Bool := false
  configFile : Option Path := none
  command : Command
  deriving Repr, DecidableEq, Inhabited

end Docpress
