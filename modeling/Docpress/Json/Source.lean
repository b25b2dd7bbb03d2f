import Docpress.Json
import Docpress.Text.Digit

/-!
JSON text as it is written, before its numbers and strings are evaluated. A value that nobody asks
for is only read so far: its strings may hold lone surrogates and its numbers may be out of range.
-/

namespace Docpress.Json

/-- The parts of a written number. -/
structure Numeral where
  negative : Bool
  whole : List Char
  fraction : List Char
  /-- The sign and the digits of the exponent, if one is written. -/
  exponent : Option (Bool × List Char)
  deriving Repr, DecidableEq, Inhabited

/-- Written JSON. A string that holds a lone surrogate has no text. -/
inductive Source where
  | null
  | bool (value : Bool)
  | number (numeral : Numeral)
  | string (text : Option String)
  | array (items : List Source)
  | object (members : List (Option String × Source))
  deriving Repr, Inhabited

namespace Source

open Text

/-- The blanks between tokens. -/
def isBlank (c : Char) : Bool :=
  c == ' ' || c == '\n' || c == '\t' || c == '\r'

/-- The text from its first character that is not blank. -/
def skipBlanks (text : List Char) : List Char :=
  text.dropWhile isBlank

/-- The value of four hexadecimal digits. -/
def hexUnit? (a b c d : Char) : Option Nat := do
  let a ← hexDigit? a
  let b ← hexDigit? b
  let c ← hexDigit? c
  let d ← hexDigit? d
  return ((a * 16 + b) * 16 + c) * 16 + d

/-- The character that a backslash and one more character stand for. -/
def simpleEscape? (c : Char) : Option Char :=
  match c with
  | '"' => some '"'
  | '\\' => some '\\'
  | '/' => some '/'
  | 'b' => some '\x08'
  | 'f' => some '\x0c'
  | 'n' => some '\n'
  | 'r' => some '\r'
  | 't' => some '\t'
  | _ => none

/-- The code points of a string up to its closing quote, and the text after that quote. Escaped
surrogates stand as they are.
-/
def stringUnits : List Char → Option (List Nat × List Char)
  | [] => none
  | '"' :: rest => some ([], rest)
  | '\\' :: 'u' :: a :: b :: c :: d :: rest => do
    let unit ← hexUnit? a b c d
    let (units, rest) ← stringUnits rest
    return (unit :: units, rest)
  | '\\' :: c :: rest => do
    let c ← simpleEscape? c
    let (units, rest) ← stringUnits rest
    return (c.toNat :: units, rest)
  | c :: rest =>
    if c < ' ' then
      none
    else do
      let (units, rest) ← stringUnits rest
      return (c.toNat :: units, rest)

/-- Whether the code unit is the first half of a surrogate pair. -/
def isHighSurrogate (unit : Nat) : Bool := 0xD800 ≤ unit && unit < 0xDC00

/-- Whether the code unit is the second half of a surrogate pair. -/
def isLowSurrogate (unit : Nat) : Bool := 0xDC00 ≤ unit && unit < 0xE000

/-- The characters of a list of code points in which surrogates stand in pairs. -/
def joinSurrogates : List Nat → Option (List Char)
  | [] => some []
  | high :: low :: rest =>
    if isHighSurrogate high then
      if isLowSurrogate low then
        (joinSurrogates rest).map
          (Char.ofNat (0x10000 + (high - 0xD800) * 0x400 + (low - 0xDC00)) :: ·)
      else
        none
    else if isLowSurrogate high then
      none
    else
      (joinSurrogates (low :: rest)).map (Char.ofNat high :: ·)
  | [unit] =>
    if isHighSurrogate unit || isLowSurrogate unit then none else some [Char.ofNat unit]

/-- The text of a string after its opening quote, and the text behind it. -/
def stringBody? (text : List Char) : Option (Option String × List Char) :=
  (stringUnits text).map fun (units, rest) => ((joinSurrogates units).map String.ofList, rest)

/-- The digits before the point: one zero, or digits that do not start with zero. -/
def wholePart? (text : List Char) : Option (List Char × List Char) :=
  match spanDigits text with
  | ([], _) => none
  | ('0' :: _ :: _, _) => none
  | split => some split

/-- The digits after the point. No point stands for no digits, but a point needs some. -/
def fractionPart? : List Char → Option (List Char × List Char)
  | '.' :: text =>
    match spanDigits text with
    | ([], _) => none
    | split => some split
  | text => some ([], text)

/-- The sign and the digits of an exponent, if one is written. -/
def exponentPart? : List Char → Option (Option (Bool × List Char) × List Char)
  | [] => some (none, [])
  | mark :: text =>
    if mark == 'e' || mark == 'E' then
      let (negative, digits) := match text with
        | '+' :: text => (false, text)
        | '-' :: text => (true, text)
        | text => (false, text)
      match spanDigits digits with
      | ([], _) => none
      | (digits, rest) => some (some (negative, digits), rest)
    else
      some (none, mark :: text)

/-- A number at the start of a text, and the text behind it. -/
def numeral? (text : List Char) : Option (Numeral × List Char) := do
  let (negative, text) := match text with
    | '-' :: text => (true, text)
    | text => (false, text)
  let (whole, text) ← wholePart? text
  let (fraction, text) ← fractionPart? text
  let (exponent, text) ← exponentPart? text
  return (⟨negative, whole, fraction, exponent⟩, text)

mutual

/-- A value at the start of a text, and the text behind it. Every step reads at least one
character, so that as many steps as the text has characters are enough.
-/
def value? : (steps : Nat) → List Char → Option (Source × List Char)
  | 0, _ => none
  | steps + 1, text =>
    match skipBlanks text with
    | 'n' :: 'u' :: 'l' :: 'l' :: rest => some (.null, rest)
    | 't' :: 'r' :: 'u' :: 'e' :: rest => some (.bool true, rest)
    | 'f' :: 'a' :: 'l' :: 's' :: 'e' :: rest => some (.bool false, rest)
    | '"' :: rest => (stringBody? rest).map fun (text, rest) => (.string text, rest)
    | '[' :: rest =>
      match skipBlanks rest with
      | ']' :: rest => some (.array [], rest)
      | rest => (items? steps rest).map fun (items, rest) => (.array items, rest)
    | '\x7b' :: rest =>
      match skipBlanks rest with
      | '\x7d' :: rest => some (.object [], rest)
      | rest => (members? steps rest).map fun (members, rest) => (.object members, rest)
    | text => (numeral? text).map fun (numeral, rest) => (.number numeral, rest)

/-- The items of an array up to its closing bracket. -/
def items? : (steps : Nat) → List Char → Option (List Source × List Char)
  | 0, _ => none
  | steps + 1, text => do
    let (item, rest) ← value? steps text
    match skipBlanks rest with
    | ']' :: rest => return ([item], rest)
    | ',' :: rest =>
      let (items, rest) ← items? steps rest
      return (item :: items, rest)
    | _ => none

/-- The members of an object up to its closing brace. -/
def members? : (steps : Nat) → List Char → Option (List (Option String × Source) × List Char)
  | 0, _ => none
  | steps + 1, text => do
    match skipBlanks text with
    | '"' :: rest =>
      let (key, rest) ← stringBody? rest
      match skipBlanks rest with
      | ':' :: rest =>
        let (value, rest) ← value? steps rest
        match skipBlanks rest with
        | '\x7d' :: rest => return ([(key, value)], rest)
        | ',' :: rest =>
          let (members, rest) ← members? steps rest
          return ((key, value) :: members, rest)
        | _ => none
      | _ => none
    | _ => none

end

/-- The one value that a text holds, with nothing but blanks around it. -/
def ofText? (text : String) : Option Source :=
  let chars := text.toList
  match value? (chars.length + 1) chars with
  | some (value, rest) => if (skipBlanks rest).isEmpty then some value else none
  | none => none

end Source

end Docpress.Json
