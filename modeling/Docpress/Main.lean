import Docpress.Program

/-!
The program on the real file system. Nothing is decided here: the operations of `FileSystem` are
carried out, and the outcome is printed.
-/

namespace Docpress

/-- The reason for which an operation of the operating system fails. Some operations report the error
number negated.
-/
def FileError.ofSystem : IO.Error → FileError
  | .noFileOrDirectory .. => .notFound
  | .alreadyExists .. => .alreadyExists
  | .inappropriateType _ code details =>
    if code == 20 || -code == 20 then .notDirectory
    else if code == 21 || -code == 21 then .isDirectory
    else .other details
  | error => .other (toString error)

/-- Carries out an operation and catches its failure. -/
def attempt (action : IO α) : IO (Except FileError α) := do
  match ← action.toBaseIO with
  | .ok value => return .ok value
  | .error error => return .error (.ofSystem error)

/-- Whether a directory is there. Making the directory that it is itself never succeeds, and only a
directory says that this one is there.
-/
def holdsDirectory (path : Path) : IO Bool := do
  match ← attempt (IO.FS.createDir (path.text ++ "/.")) with
  | .error .alreadyExists => return true
  | _ => return false

/-- Whether a file is there that can be read. -/
def holdsFile (path : Path) : IO Bool := do
  return (← attempt (IO.FS.readBinFile path.text)).isOk

instance : FileSystem IO where
  readText path := do
    match ← attempt (IO.FS.readBinFile path.text) with
    | .error error => return .error error
    | .ok content => return (String.fromUTF8? content).elim (.error .notText) .ok
  writeText path text := attempt (IO.FS.writeFile path.text text)
  makeDirectory path := attempt (IO.FS.createDir path.text)
  isPresent path := do return (← holdsDirectory path) || (← holdsFile path)
  isDirectory := holdsDirectory

/-- Prints an outcome. -/
def Outcome.print (outcome : Outcome) : IO UInt32 := do
  (← IO.getStdout).putStr outcome.output
  for error in outcome.errors do
    (← IO.getStderr).putStrLn error
  return outcome.exitCode.toUInt32

end Docpress

/-- Runs the program. -/
def main (arguments : List String) : IO UInt32 := do
  (← Docpress.Program.run arguments).print
