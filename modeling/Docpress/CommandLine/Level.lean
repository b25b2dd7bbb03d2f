import Docpress.CommandLine.Usage

/-!
Arguments of one level of a command line: of the program, or of one of its commands. They are read
from left to right. A value that stands in an argument of its own, and a group of operands, wait until
the next option or the end of the level before they are checked.
-/

namespace Docpress.CommandLine

/-- Reads the value of an option, or an operand, into the settings of a level. -/
abbrev Assign (σ : Type) := String → σ → Except Usage σ

/-- What an option does. -/
inductive Action (σ : Type) where
  /-- Takes no value and changes the settings. -/
  | flag (set : σ → σ)
  /-- Takes a value. -/
  | value (assign : Assign σ)
  /-- Takes no value and ends the reading. -/
  | stop (usage : Usage)

/-- An option under its names. -/
structure Switch (σ : Type) where
  short : Option Char := none
  long : String
  action : Action σ

/-- What the arguments of a level may be. -/
structure Level (σ : Type) where
  switches : List (Switch σ)
  /-- What is done with operands, if there may be some. -/
  operand : Option (Assign σ) := none
  /-- The names at which the arguments of the next level start. -/
  commands : List String := []

/-- What is still to be checked. -/
inductive Pending (σ : Type) where
  | nothing
  /-- An option whose value was not there yet, or was the last argument. -/
  | value (long : String) (assign : Assign σ) (value : Option String)
  | operands (assign : Assign σ) (operands : List String)

/-- How far the arguments of a level are read. -/
structure Progress (σ : Type) where
  settings : σ
  /-- The long names of the options that are given so far. -/
  given : List String := []
  pending : Pending σ := .nothing

namespace Progress

variable {σ : Type}

/-- Notes that an option is given. It must not be given twice. -/
def note (progress : Progress σ) (long : String) : Except Usage (Progress σ) :=
  if progress.given.contains long then
    .error .repeatedOption
  else
    .ok { progress with given := long :: progress.given }

/-- Gives an option its value. -/
def assign (progress : Progress σ) (long : String) (assign : Assign σ) (value : String)
    : Except Usage (Progress σ) := do
  let progress ← progress.note long
  return { progress with settings := ← assign value progress.settings }

/-- Checks what is pending. -/
def settle (progress : Progress σ) : Except Usage (Progress σ) :=
  let settled := { progress with pending := .nothing }
  match progress.pending with
  | .nothing => .ok settled
  | .value _ _ none => .error .invalidValue
  | .value long assign (some value) => settled.assign long assign value
  | .operands assign operands => do
    let settings ← operands.foldlM (fun settings operand => assign operand settings) settled.settings
    return { settled with settings := settings }

/-- Whether the next argument may be the value of an option. -/
def awaitsValue (progress : Progress σ) : Bool :=
  match progress.pending with
  | .value _ _ none => true
  | _ => false

/-- Follows an option that comes with a value, or without one. -/
def follow (progress : Progress σ) (switch : Switch σ) (value : Option String)
    : Except Usage (Progress σ) :=
  match switch.action, value with
  | .value assign, some value => do (← progress.settle).assign switch.long assign value
  | .value assign, none => do
    return { ← progress.settle with pending := .value switch.long assign none }
  | .flag _, some _ => .error .unwantedValue
  | .stop _, some _ => .error .unwantedValue
  | .flag set, none => do
    let progress ← (← progress.settle).note switch.long
    return { progress with settings := set progress.settings }
  | .stop usage, none => do
    let _ ← progress.settle
    throw usage

/-- Adds an operand to the group of operands that is read, or starts a new group. -/
def addOperand (progress : Progress σ) (assign : Assign σ) (operand : String)
    : Except Usage (Progress σ) :=
  match progress.pending with
  | .operands _ operands =>
    .ok { progress with pending := .operands assign (operands ++ [operand]) }
  | _ => do return { ← progress.settle with pending := .operands assign [operand] }

/-- Takes an argument as the value that an option waits for. -/
def takeValue (progress : Progress σ) (argument : String) : Progress σ :=
  match progress.pending with
  | .value long assign none => { progress with pending := .value long assign (some argument) }
  | _ => progress

end Progress

namespace Level

variable {σ : Type}

/-- The name of a long option and the value behind its first equals sign. -/
def splitAtEquals (text : List Char) : String × Option String :=
  let name := String.ofList (text.takeWhile (· != '='))
  match text.dropWhile (· != '=') with
  | [] => (name, none)
  | _ :: value => (name, some (String.ofList value))

/-- Reads a long option, given without its hyphens. -/
def readLong (level : Level σ) (progress : Progress σ) (text : List Char)
    : Except Usage (Progress σ) :=
  let (name, value) := splitAtEquals text
  match level.switches.find? (·.long == name) with
  | none => .error .unknownArgument
  | some switch => progress.follow switch value

/-- Reads short options that share one hyphen. What stands behind one that takes a value is its value,
with or without an equals sign between them.
-/
def readShort (level : Level σ) (progress : Progress σ) : List Char → Except Usage (Progress σ)
  | [] => .ok progress
  | c :: rest =>
    match level.switches.find? (·.short == some c) with
    | none => .error .unknownArgument
    | some switch =>
      match switch.action, rest with
      | .value _, [] => progress.follow switch none
      | .value _, '=' :: value => progress.follow switch (some (String.ofList value))
      | .value _, value => progress.follow switch (some (String.ofList value))
      | _, rest => do level.readShort (← progress.follow switch none) rest

/-- Reads an operand. `onlyOperands` holds behind an argument of two hyphens. -/
def readOperand (level : Level σ) (onlyOperands : Bool) (progress : Progress σ) (argument : String)
    : Except Usage (Progress σ) :=
  match level.operand with
  | some assign => progress.addOperand assign argument
  | none =>
    if level.commands.isEmpty || (onlyOperands && level.commands.contains argument) then
      .error .unknownArgument
    else
      .error .unknownCommand

/-- Reads one argument that is neither a command nor the mark before operands. -/
def readArgument (level : Level σ) (progress : Progress σ) (argument : String)
    : Except Usage (Progress σ) :=
  match argument.toList with
  | '-' :: '-' :: text => level.readLong progress text
  | '-' :: c :: text => level.readShort progress (c :: text)
  | _ =>
    if progress.awaitsValue then .ok (progress.takeValue argument)
    else level.readOperand false progress argument

/-- Reads arguments up to the end or up to a command, and gives the command with the arguments
behind it.
-/
def read (level : Level σ) : (onlyOperands : Bool) → Progress σ → List String
    → Except Usage (Progress σ × Option (String × List String))
  | _, progress, [] => .ok (progress, none)
  | true, progress, argument :: rest => do
    level.read true (← level.readOperand true progress argument) rest
  | false, progress, argument :: rest =>
    if !progress.awaitsValue && level.commands.contains argument then
      .ok (progress, some (argument, rest))
    else if argument == "--" then
      level.read true progress rest
    else do
      level.read false (← level.readArgument progress argument) rest

/-- Reads all arguments of a level that has no commands. -/
def readAll (level : Level σ) (settings : σ) (arguments : List String) : Except Usage σ := do
  let (progress, _) ← level.read false { settings := settings } arguments
  return (← progress.settle).settings

end Level

end Docpress.CommandLine
