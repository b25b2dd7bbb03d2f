import Docpress.Batch
import Docpress.CommandLine.Help
import Docpress.Config.Override

/-!
What the program does for a command line, in any monad with files and with any libraries to read
Markdown and to highlight code. It touches files by the operations of `FileSystem` alone; what it prints
and how it ends are its result.
-/

namespace Docpress

/-- How a run of the program ends. -/
structure Outcome where
  /-- Zero after a success. -/
  exitCode : Nat := 0
  output : String := ""
  /-- What went wrong, and what that came from. -/
  errors : List String := []
  deriving Repr, DecidableEq, Inhabited

namespace Outcome

/-- The end of a run that fails. -/
def failure (errors : List String) : Outcome where
  exitCode := 1
  errors := errors

/-- The end of a run whose arguments are no command line. Requests are no failures. -/
def ofUsage : CommandLine.Usage → Outcome
  | .help => { output := CommandLine.helpText }
  | .version => { output := CommandLine.versionText }
  | _ => { exitCode := 2 }

end Outcome

/-- A batch error and what it came from, outermost first. -/
def BatchError.chain (error : BatchError) : List String :=
  match error with
  | .config _ => [error.message]
  | .file cause => [error.message, cause.message]
  | .unreadable _ cause => [error.message, cause.message]
  | .unrenderable _ cause => [error.message, cause.message]

/-- A text as it is printed: with a line end, if it has none. -/
def printed (text : String) : String :=
  if text.toList.getLast? == some '\n' then text else text ++ "\n"

namespace Program

variable {m : Type → Type} [Monad m] [FileSystem m] [Markdown.Reader] [SyntaxLibrary]

/-- How a run ends that rendered some inputs. Documents without an output file are printed. -/
def reportBatch (inputs : List Path) (report : BatchReport) : Outcome :=
  let output := String.join ((report.rendered.filter (·.output.isNone)).map (printed ·.contents))
  if report.isSuccess then
    { output := output }
  else
    { exitCode := 1
      output := output
      errors := [toString report.failed.length ++ " of " ++ toString inputs.length ++
        " documents failed to render"] }

/-- Renders the inputs of a command. -/
def render (config : Config) (inputs : List Path) : m Outcome := do
  match ← Batch.run config inputs with
  | .error error => return .failure error.chain
  | .ok report => return reportBatch inputs report

/-- Makes the style sheet of a configuration. -/
def stylesheet (config : Config) (output : Option Path) : m Outcome := do
  match (DocumentRenderer.standard config.render).stylesheet with
  | .error cause => return .failure ["Failed to generate highlight stylesheet", cause.message]
  | .ok css =>
    match output with
    | none => return { output := printed css }
    | some path =>
      match ← FileSystem.writeText path css with
      | .error cause =>
        return .failure ["Failed to write stylesheet: " ++ path.text, cause.message]
      | .ok () => return {}

/-- Makes the directory that a path lies in, unless it is there or the path has no such directory. -/
def makeParent (path : Path) : m (Except (List String) Unit) := do
  match path.parent? with
  | none => return .ok ()
  | some parent =>
    if parent.text.isEmpty || (← FileSystem.isPresent parent) then
      return .ok ()
    else
      return (← FileSystem.makeDirectories parent).mapError fun cause =>
        ["Failed to create directory: " ++ parent.text, cause.message]

/-- Makes a configuration file with every default. -/
def init (arguments : InitArguments) : m Outcome := do
  let path := arguments.output
  if (← FileSystem.isPresent path) && !arguments.force then
    return .failure
      ["Configuration file already exists: " ++ path.text ++ ". Use --force to overwrite."]
  else
    match ← makeParent path with
    | .error errors => return .failure errors
    | .ok () =>
      match ← Config.writeDefault arguments.format path with
      | .error cause =>
        return .failure
          (("Failed to generate configuration file: " ++ path.text) :: (BatchError.config cause).chain)
      | .ok () => return {}

/-- Does what a command line asks for. -/
def execute (line : CommandLine) : m Outcome := do
  match line.command with
  | .init arguments => init arguments
  | .stylesheet arguments =>
    match ← Config.resolve line with
    | .error cause => return .failure (BatchError.config cause).chain
    | .ok config => stylesheet config arguments.output
  | .render arguments =>
    match ← Config.resolve line with
    | .error cause => return .failure (BatchError.config cause).chain
    | .ok config => render config arguments.inputs

/-- Runs the program on its arguments. -/
def run (arguments : List String) : m Outcome :=
  match CommandLine.ofArguments arguments with
  | .error usage => return .ofUsage usage
  | .ok line => execute line

end Program

end Docpress
