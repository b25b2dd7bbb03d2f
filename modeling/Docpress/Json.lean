import Docpress.Double.Shortest

/-!
JSON values, with members in order, and their two written forms: compact, and indented by two
blanks.
-/

namespace Docpress

/-- A JSON value. Numbers are integers or floating-point numbers. -/
inductive Json where
  | null
  | bool (value : Bool)
  | int (value : Int)
  | double (value : Double)
  | string (value : String)
  | array (items : List Json)
  | object (members : List (String × Json))
  deriving Repr, Inhabited

namespace Json

/-- Numbers are positional for decimal exponents from -5 to 15, and keep a digit after the point. -/
def numberLayout : Double.Layout :=
  ⟨-5, 15, "e+", "e-"⟩

/-- The lower-case hexadecimal digits of a control character, as four digits. -/
def escapeControl (c : Char) : List Char :=
  let digits := Nat.toDigits 16 c.toNat
  ['\\', 'u'] ++ List.replicate (4 - digits.length) '0' ++ digits

/-- A character of a string as it is written. -/
def escapeChar (c : Char) : List Char :=
  if c == '"' then ['\\', '"']
  else if c == '\\' then ['\\', '\\']
  else if c == '\x08' then ['\\', 'b']
  else if c == '\t' then ['\\', 't']
  else if c == '\n' then ['\\', 'n']
  else if c == '\x0c' then ['\\', 'f']
  else if c == '\r' then ['\\', 'r']
  else if c < ' ' then escapeControl c
  else [c]

/-- A string between quotes. Only the quote, the backslash and the control characters are escaped. -/
def quote (text : String) : String :=
  String.ofList ('"' :: text.toList.flatMap escapeChar ++ ['"'])

mutual

/-- The text of a value without blanks. -/
def compact : Json → String
  | null => "null"
  | bool true => "true"
  | bool false => "false"
  | int value => toString value
  | double value => value.format numberLayout
  | string value => quote value
  | array items => "[" ++ compactItems items ++ "]"
  | object members => "\x7b" ++ compactMembers members ++ "\x7d"

/-- The texts of array items, with commas between them. -/
def compactItems : List Json → String
  | [] => ""
  | [item] => compact item
  | item :: next :: rest => compact item ++ "," ++ compactItems (next :: rest)

/-- The texts of object members, with commas between them. -/
def compactMembers : List (String × Json) → String
  | [] => ""
  | [(key, value)] => quote key ++ ":" ++ compact value
  | (key, value) :: next :: rest =>
    quote key ++ ":" ++ compact value ++ "," ++ compactMembers (next :: rest)

end

/-- A line break and the indentation of a nesting level. -/
def newline (level : Nat) : String :=
  String.ofList ('\n' :: List.replicate (2 * level) ' ')

mutual

/-- The text of a value that stands at a nesting level, with one line for each item and member. -/
def prettyAt (level : Nat) : Json → String
  | array [] => "[]"
  | array (item :: rest) => "[" ++ prettyItems (level + 1) (item :: rest) ++ newline level ++ "]"
  | object [] => "\x7b\x7d"
  | object (member :: rest) =>
    "\x7b" ++ prettyMembers (level + 1) (member :: rest) ++ newline level ++ "\x7d"
  | null => compact null
  | bool value => compact (bool value)
  | int value => compact (int value)
  | double value => compact (double value)
  | string value => compact (string value)

/-- The lines of array items, with commas between them. -/
def prettyItems (level : Nat) : List Json → String
  | [] => ""
  | [item] => newline level ++ prettyAt level item
  | item :: next :: rest =>
    newline level ++ prettyAt level item ++ "," ++ prettyItems level (next :: rest)

/-- The lines of object members, with commas between them. -/
def prettyMembers (level : Nat) : List (String × Json) → String
  | [] => ""
  | [(key, value)] => newline level ++ quote key ++ ": " ++ prettyAt level value
  | (key, value) :: next :: rest =>
    newline level ++ quote key ++ ": " ++ prettyAt level value ++ ","
      ++ prettyMembers level (next :: rest)

end

/-- The indented text of a value. -/
def pretty (value : Json) : String :=
  value.prettyAt 0

/-- A string, or null if there is none. -/
def ofOption (value : Option String) : Json :=
  match value with
  | some text => .string text
  | none => .null

end Json

end Docpress
