import Docpress.Markdown.EntityTable
import Docpress.Text.Digit

/-!
Character references, by name or by number, and how they are replaced in a text.
-/

namespace Docpress.Markdown.Entity

open Text

/-- The character that stands for what is no character. -/
def replacement : Char := '\uFFFD'

/-- The character with a number. Numbers that no text may hold give the replacement character. -/
def charOfNumber (number : Nat) : Char :=
  if number = 0 ∨ (0xD800 ≤ number ∧ number ≤ 0xE000) ∨ 0x110000 ≤ number then replacement
  else Char.ofNat number

/-- How many digits a decimal and a hexadecimal reference may have. -/
def maxDecimalDigits : Nat := 7

/-- How many digits a hexadecimal reference may have. -/
def maxHexDigits : Nat := 6

/-- How long the name of a reference may be, with its semicolon. -/
def maxNameLength : Nat := 32

/-- A numeric reference whose digits are in a class, and the text behind its semicolon. -/
def numbered? (isDigit : Char → Bool) (base maxDigits : Nat) (text : List Char)
    : Option (List Char × List Char) :=
  let digits := text.takeWhile isDigit
  match text.dropWhile isDigit with
  | ';' :: rest =>
    if 1 ≤ digits.length ∧ digits.length ≤ maxDigits then
      some ([charOfNumber (natOfBase base digits)], rest)
    else
      none
  | _ => none

/-- A named reference, and the text behind its semicolon. -/
def named? (text : List Char) : Option (List Char × List Char) :=
  let name := text.takeWhile fun c => c != ';' && c != ' '
  match text.drop name.length with
  | ';' :: rest =>
    if 2 ≤ name.length ∧ name.length < maxNameLength then
      (EntityTable.references.lookup (String.ofList name)).map fun value => (value.toList, rest)
    else
      none
  | _ => none

/-- What a reference stands for and the text behind it, given the text after its ampersand. -/
def read? (text : List Char) : Option (List Char × List Char) :=
  match text with
  | '#' :: 'x' :: digits | '#' :: 'X' :: digits => numbered? isHexDigit 16 maxHexDigits digits
  | '#' :: digits => numbered? Char.isDigit 10 maxDecimalDigits digits
  | name => named? name

/-- Replaces the references in a text, of which the first `skip` characters belong to a reference
that has been replaced already.
-/
def unescapeAfter : (skip : Nat) → List Char → List Char
  | _, [] => []
  | skip + 1, _ :: rest => unescapeAfter skip rest
  | 0, '&' :: rest =>
    match read? rest with
    | some (value, after) => value ++ unescapeAfter (rest.length - after.length) rest
    | none => '&' :: unescapeAfter 0 rest
  | 0, c :: rest => c :: unescapeAfter 0 rest

/-- The text with its references replaced. -/
def unescape (text : List Char) : List Char :=
  unescapeAfter 0 text

end Docpress.Markdown.Entity
