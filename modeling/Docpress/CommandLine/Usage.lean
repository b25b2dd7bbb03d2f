/-!
Why arguments are no command line, or one that only asks for a text.
-/

namespace Docpress.CommandLine

/-- Why reading the arguments of a command stops. -/
inductive Usage where
  /-- The help was asked for. -/
  | help
  /-- There are no arguments at all. -/
  | helpOnNoArguments
  /-- The version was asked for. -/
  | version
  /-- A value is missing, is empty, or is none of the values that there are. -/
  | invalidValue
  /-- A value is no number. -/
  | invalidNumber
  /-- An option is not known here, or there is an argument too many. -/
  | unknownArgument
  /-- There is no such command. -/
  | unknownCommand
  /-- An argument that is needed is missing. -/
  | missingArgument
  /-- There are arguments but no command. -/
  | missingCommand
  /-- An option is given twice. -/
  | repeatedOption
  /-- An option that takes no value is given one. -/
  | unwantedValue
  deriving Repr, DecidableEq, Inhabited

end Docpress.CommandLine
