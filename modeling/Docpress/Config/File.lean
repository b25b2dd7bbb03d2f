import Docpress.Config
import Docpress.FileSystem

/-!
Configuration files: how they are loaded, and how one with every default is written.
-/

namespace Docpress

/-- Why there is no configuration, or none that can be followed. -/
inductive ConfigError where
  | unreadable (path : Path) (cause : FileError)
  | malformed (format : ConfigFormat) (path : Path)
  | unsupportedExtension (path : Path)
  | noExtension (path : Path)
  | unsupportedFormat (name : String)
  | unwritable (path : Path) (cause : FileError)
  /-- Two inputs have one output. -/
  | collision (previous input output : Path)
  deriving Repr, DecidableEq, Inhabited

/-- The message of a configuration error. -/
def ConfigError.message : ConfigError → String
  | unreadable path cause => "Failed to read config file: " ++ path.text ++ ": " ++ cause.message
  | malformed format path => "Failed to parse " ++ format.title ++ " config from " ++ path.text
  | unsupportedExtension path => "Unsupported config file format: " ++ path.text
  | noExtension path => "Config file has no extension: " ++ path.text
  | unsupportedFormat name => "Unsupported config format: " ++ name
  | unwritable path cause =>
    "Failed to write default config to " ++ path.text ++ ": " ++ cause.message
  | collision previous input output =>
    previous.text ++ " and " ++ input.text ++ " would both be written to " ++ output.text

namespace Config

/-- The format of a configuration file. Its extension names it, in upper or lower case. -/
def formatOf (path : Path) : Except ConfigError ConfigFormat :=
  match path.extension? with
  | none => .error (.noExtension path)
  | some extension =>
    match ConfigFormat.names.lookup (Text.lowercaseString extension) with
    | some format => .ok format
    | none => .error (.unsupportedExtension path)

/-- Reads a configuration from the text of the file that a path names. -/
def ofFileText (path : Path) (text : String) : Except ConfigError Config := do
  let format ← formatOf path
  match ofText? format text with
  | some config => return config
  | none => throw (.malformed format path)

section Files

variable {m : Type → Type} [Monad m] [FileSystem m]

/-- Loads a configuration file. -/
def load (path : Path) : m (Except ConfigError Config) := do
  match ← FileSystem.readText path with
  | .error cause => return .error (.unreadable path cause)
  | .ok text => return ofFileText path text

/-- Writes a configuration file with every default. -/
def writeDefault (format : ConfigFormat) (path : Path) : m (Except ConfigError Unit) := do
  match ← FileSystem.writeText path (({} : Config).write format) with
  | .error cause => return .error (.unwritable path cause)
  | .ok () => return .ok ()

/-- Writes a configuration file with every default in the format that a name names. -/
def writeDefaultNamed (name : String) (path : Path) : m (Except ConfigError Unit) :=
  match ConfigFormat.names.lookup name with
  | none => return .error (.unsupportedFormat name)
  | some format => writeDefault format path

end Files

end Config

end Docpress
