import Docpress.CommandLine.Command
import Docpress.Config.File

/-!
The configuration that a command line asks for. Its arguments stand before the settings of the
configuration file, and those before the defaults.
-/

namespace Docpress

namespace Config

/-- The configuration after the arguments that render documents take the place of its settings. -/
def overrideRender (config : Config) (arguments : RenderArguments) : Config where
  outputDir := arguments.outputDir <|> config.outputDir
  format := arguments.format.getD config.format
  jobs := arguments.jobs <|> config.jobs
  render := { config.render with
    highlightTheme := arguments.theme <|> config.render.highlightTheme
    highlightCode := config.render.highlightCode && !arguments.noHighlight
    tableMode := if arguments.strictTables then .strict else config.render.tableMode
    headingIds := arguments.headingIds.getD config.render.headingIds }

/-- The configuration after the arguments of a command take the place of its settings. -/
def override (config : Config) : Command → Config
  | .render arguments => config.overrideRender arguments
  | .stylesheet arguments =>
    { config with render := { config.render with
      highlightTheme := arguments.theme <|> config.render.highlightTheme } }
  | .init _ => config

/-- The configuration that a command line asks for: its arguments before the settings of its
configuration file, and those before the defaults.
-/
def resolve {m : Type → Type} [Monad m] [FileSystem m] (line : CommandLine)
    : m (Except ConfigError Config) := do
  match line.configFile with
  | none => return .ok (({} : Config).override line.command)
  | some path => return (← load path).map (·.override line.command)

end Config

end Docpress
