import Docpress.Path

/-!
What a program does with files. Each operation is atomic and may fail; the directories that lead to a
path are made one by one.
-/

namespace Docpress

/-- Why a file operation fails. -/
inductive FileError where
  /-- Nothing is there, or a directory that leads to it is missing. -/
  | notFound
  /-- Something is there already. -/
  | alreadyExists
  /-- A path leads through a file. -/
  | notDirectory
  /-- A directory is used as a file. -/
  | isDirectory
  /-- The content of a file is not text. -/
  | notText
  | other (reason : String)
  deriving Repr, DecidableEq, Inhabited

namespace FileError

/-- The message of a file error. -/
def message : FileError → String
  | notFound => "No such file or directory (os error 2)"
  | alreadyExists => "File exists (os error 17)"
  | notDirectory => "Not a directory (os error 20)"
  | isDirectory => "Is a directory (os error 21)"
  | notText => "stream did not contain valid UTF-8"
  | other reason => reason

end FileError

/-- The file operations of a monad. -/
class FileSystem (m : Type → Type) where
  /-- The text of a file. -/
  readText : Path → m (Except FileError String)
  /-- Gives a file a new content, and makes it if it is missing. -/
  writeText : Path → String → m (Except FileError Unit)
  /-- Makes a directory in one that is there. -/
  makeDirectory : Path → m (Except FileError Unit)
  /-- Whether a file or a directory is there. -/
  isPresent : Path → m Bool
  /-- Whether a directory is there. -/
  isDirectory : Path → m Bool

namespace FileSystem

variable {m : Type → Type} [Monad m] [FileSystem m]

/-- Makes the first of some directories, each of which lies in the next one. If that one is missing,
it is made first. A directory that is there already is good.
-/
def makeLineage : List Path → m (Except FileError Unit)
  | [] => return .ok ()
  | path :: parents => do
    match ← makeDirectory path with
    | .ok () => return .ok ()
    | .error .notFound =>
      match ← makeLineage parents with
      | .error error => return .error error
      | .ok () => settle path (← makeDirectory path)
    | .error error => settle path (.error error)
where
  /-- Forgives a failure if the directory is there all the same. -/
  settle (path : Path) : Except FileError Unit → m (Except FileError Unit)
    | .ok () => return .ok ()
    | .error error => return if ← isDirectory path then .ok () else .error error

/-- Makes a directory and the directories that lead to it. -/
def makeDirectories (path : Path) : m (Except FileError Unit) :=
  makeLineage path.lineage

end FileSystem

end Docpress
