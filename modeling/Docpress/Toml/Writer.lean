import Docpress.Toml.Text

/-!
Written TOML: strings between quotes, and lines that set a key.
-/

namespace Docpress.Toml

/-- A character of a string as it is written. Control characters are given by their code points. -/
def escapeChar (c : Char) : List Char :=
  if c == '"' then ['\\', '"']
  else if c == '\\' then ['\\', '\\']
  else if c == '\t' then ['\\', 't']
  else if isPlain c then [c]
  else
    let digits := Nat.toDigits 16 c.toNat
    ['\\', 'u'] ++ List.replicate (4 - digits.length) '0' ++ digits

/-- A string between quotes. -/
def quote (text : String) : String :=
  String.ofList (basicQuote :: text.toList.flatMap escapeChar ++ [basicQuote])

/-- A line that sets a key. -/
def line (key value : String) : String :=
  key ++ " = " ++ value ++ "\n"

/-- A line that sets a key, if there is a value. -/
def lineOf (key : String) : Option String → String
  | none => ""
  | some value => line key value

/-- A truth value. -/
def ofBool (value : Bool) : String :=
  if value then "true" else "false"

/-- The header of a table. -/
def header (name : String) : String :=
  "[" ++ name ++ "]\n"

end Docpress.Toml
