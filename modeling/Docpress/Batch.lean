import Docpress.Config.File
import Docpress.Document
import Docpress.FileSystem

/-!
Rendering many documents. Every input goes through two steps, one that reads and renders it and one
that writes what came out, and an input that fails stops no other one. Inputs that would overwrite
each other's output are refused before anything is read or written.
-/

namespace Docpress

/-- Why a batch or one of its inputs fails. -/
inductive BatchError where
  | config (cause : ConfigError)
  | file (cause : FileError)
  | unreadable (path : Path) (cause : FileError)
  | unrenderable (path : Path) (cause : RenderError)
  deriving Repr, DecidableEq

/-- The message of a batch error. -/
def BatchError.message : BatchError → String
  | config cause => "Configuration error: " ++ cause.message
  | file cause => "I/O error: " ++ cause.message
  | unreadable path cause => "Failed to read " ++ path.text ++ ": " ++ cause.message
  | unrenderable path cause => "Failed to render " ++ path.text ++ ": " ++ cause.message

/-- An input that was rendered, and written if it has an output. -/
structure RenderedFile where
  input : Path
  output : Option Path
  contents : String
  deriving Repr, DecidableEq

/-- What became of the inputs of a batch, both lists in the order of the inputs. -/
structure BatchReport where
  rendered : List RenderedFile := []
  failed : List BatchError := []
  deriving Repr, DecidableEq

namespace BatchReport

/-- Whether every input was rendered and written. -/
def isSuccess (report : BatchReport) : Bool :=
  report.failed.isEmpty

/-- The report on the results of all inputs. -/
def ofResults (results : List (Except BatchError RenderedFile)) : BatchReport where
  rendered := results.filterMap fun
    | .ok file => some file
    | .error _ => none
  failed := results.filterMap fun
    | .ok _ => none
    | .error error => some error

end BatchReport

namespace Batch

variable [Markdown.Reader] [SyntaxLibrary]

/-- The output of an input: the file of its name in the output directory, with the extension of the
format. An input without a name has the output of an index.
-/
def outputPath (input directory : Path) (format : OutputFormat) : Path :=
  directory.join (input.stem?.getD "index" ++ "." ++ format.name)

/-- The first input whose output is the output of an input before it, seen from the outputs and inputs
that came before.
-/
def collision? (directory : Path) (format : OutputFormat) (claimed : List (Path × Path))
    : List Path → Option ConfigError
  | [] => none
  | input :: rest =>
    let output := outputPath input directory format
    match claimed.lookup output with
    | some previous => some (.collision previous input output)
    | none => collision? directory format ((output, input) :: claimed) rest

/-- The written form of the document that a text is the source of. -/
def renderText (config : Config) (input : Path) (source : String) : Except BatchError String :=
  match (DocumentRenderer.standard config.render).render none source with
  | .ok document => .ok (document.write config.format)
  | .error cause => .error (.unrenderable input cause)

variable {m : Type → Type} [Monad m] [FileSystem m]

/-- The first step of an input: it is read and rendered. -/
def renderInput (config : Config) (input : Path) : m (Except BatchError String) := do
  match ← FileSystem.readText input with
  | .error cause => return .error (.unreadable input cause)
  | .ok source => return renderText config input source

/-- The second step of an input: what it was rendered to is written, if there is an output directory.
-/
def writeOutput (config : Config) (input : Path) (contents : String)
    : m (Except BatchError RenderedFile) :=
  match config.outputDir with
  | none => return .ok ⟨input, none, contents⟩
  | some directory => do
    let output := outputPath input directory config.format
    match ← FileSystem.writeText output contents with
    | .error cause => return .error (.file cause)
    | .ok () => return .ok ⟨input, some output, contents⟩

/-- Both steps of an input. -/
def process (config : Config) (input : Path) : m (Except BatchError RenderedFile) := do
  match ← renderInput config input with
  | .error error => return .error error
  | .ok contents => writeOutput config input contents

/-- Gets the output directory ready, if there is one. -/
def prepare (config : Config) (inputs : List Path) : m (Except BatchError Unit) :=
  match config.outputDir with
  | none => return .ok ()
  | some directory =>
    match collision? directory config.format [] inputs with
    | some error => return .error (.config error)
    | none => return (← FileSystem.makeDirectories directory).mapError .file

/-- Renders and writes all inputs. -/
def run (config : Config) (inputs : List Path) : m (Except BatchError BatchReport) := do
  match ← prepare config inputs with
  | .error error => return .error error
  | .ok () => return .ok (.ofResults (← inputs.mapM (process config)))

end Batch

end Docpress
