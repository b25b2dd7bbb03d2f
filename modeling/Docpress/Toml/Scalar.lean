import Docpress.Text.Digit
import Docpress.Text.WhiteSpace
import Docpress.Toml.Value

/-!
TOML values that are written without quotes: truth values, numbers, dates and times. Each is one
word, but for a date and a time with a space between them.
-/

namespace Docpress.Toml

open Text

/-- The digits of a number. Single underscores may stand between two digits. -/
def digits? (isDigit : Char → Bool) : List Char → Option (List Char)
  | [] => none
  | [c] => if isDigit c then some [c] else none
  | c :: '_' :: rest => if isDigit c then (digits? isDigit rest).map (c :: ·) else none
  | c :: rest => if isDigit c then (digits? isDigit rest).map (c :: ·) else none

/-- The digits of a decimal number: one zero, or digits that do not start with zero. -/
def decimal? (text : List Char) : Option (List Char) :=
  match digits? Char.isDigit text with
  | some ('0' :: _ :: _) => none
  | digits => digits

/-- Whether a character is a digit of a base up to sixteen. -/
def isDigitOf (base : Nat) (c : Char) : Bool :=
  match hexDigit? c with
  | some value => value < base
  | none => false

/-- A number without sign in a base up to sixteen. -/
def natural? (base : Nat) (text : List Char) : Option Int :=
  (digits? (isDigitOf base) text).map fun digits => natOfBase base digits

/-- An integer before its range is checked. The bases other than ten take no sign. -/
def wideInteger? : List Char → Option Int
  | '0' :: 'x' :: text => natural? 16 text
  | '0' :: 'o' :: text => natural? 8 text
  | '0' :: 'b' :: text => natural? 2 text
  | '-' :: text => (decimal? text).map fun digits => -(natOfDigits digits : Int)
  | '+' :: text => (decimal? text).map fun digits => natOfDigits digits
  | text => (decimal? text).map fun digits => natOfDigits digits

/-- The smallest integer of 64 bits. -/
def minInteger : Int := -9223372036854775808

/-- The largest integer of 64 bits. -/
def maxInteger : Int := 9223372036854775807

/-- An integer of 64 bits. -/
def integer? (text : List Char) : Option Int :=
  (wideInteger? text).filter fun value => minInteger ≤ value && value ≤ maxInteger

/-- The text behind a sign, if there is one. -/
def dropSign : List Char → List Char
  | '-' :: text => text
  | '+' :: text => text
  | text => text

/-- Whether a character may stand in the digits of a number. -/
def isDigitOrUnderscore (c : Char) : Bool :=
  c.isDigit || c == '_'

/-- Whether a text is the exponent of a number. -/
def isExponent : List Char → Bool
  | [] => false
  | mark :: text =>
    (mark == 'e' || mark == 'E') && (digits? Char.isDigit (dropSign text)).isSome

/-- Whether a text is a floating-point number: a special value, or a decimal number with a fraction, an
exponent or both.
-/
def isFloat (text : List Char) : Bool :=
  let text := dropSign text
  if text == ['i', 'n', 'f'] || text == ['n', 'a', 'n'] then
    true
  else
    (decimal? (text.takeWhile isDigitOrUnderscore)).isSome &&
      match text.dropWhile isDigitOrUnderscore with
      | '.' :: text =>
        let rest := text.dropWhile isDigitOrUnderscore
        (digits? Char.isDigit (text.takeWhile isDigitOrUnderscore)).isSome &&
          (rest.isEmpty || isExponent rest)
      | text => isExponent text

/-- A number of the given count of digits that lies within bounds, and the text behind it. -/
def bounded? (count low high : Nat) (text : List Char) : Option (Nat × List Char) :=
  let digits := text.take count
  let value := natOfDigits digits
  if digits.length = count && digits.all Char.isDigit && low ≤ value && value ≤ high then
    some (value, text.drop count)
  else
    none

/-- The text behind an expected character. -/
def expect? (expected : Char) : List Char → Option (List Char)
  | [] => none
  | c :: rest => if c == expected then some rest else none

/-- The number of days of a month. -/
def daysOfMonth (year month : Nat) : Nat :=
  if month = 2 then
    if year % 4 = 0 && (year % 100 ≠ 0 || year % 400 = 0) then 29 else 28
  else if month = 4 || month = 6 || month = 9 || month = 11 then
    30
  else
    31

/-- The text behind a date. -/
def date? (text : List Char) : Option (List Char) := do
  let (year, text) ← bounded? 4 0 9999 text
  let (month, text) ← bounded? 2 1 12 (← expect? '-' text)
  let (_, text) ← bounded? 2 1 (daysOfMonth year month) (← expect? '-' text)
  return text

/-- The text behind the fraction of a second, if there is one. -/
def secondFraction? : List Char → Option (List Char)
  | '.' :: text => if (text.head?.map Char.isDigit).getD false then some (spanDigits text).2 else none
  | text => some text

/-- The text behind a time. It may leave out the seconds. -/
def time? (text : List Char) : Option (List Char) := do
  let (_, text) ← bounded? 2 0 23 text
  let (_, text) ← bounded? 2 0 59 (← expect? ':' text)
  match text with
  | ':' :: text =>
    let (_, text) ← bounded? 2 0 60 text
    secondFraction? text
  | text => return text

/-- Whether a text is the distance from universal time. -/
def isOffset : List Char → Bool
  | ['Z'] => true
  | ['z'] => true
  | sign :: text =>
    (sign == '+' || sign == '-') &&
      ((do
        let (_, text) ← bounded? 2 0 23 text
        let (_, text) ← bounded? 2 0 59 (← expect? ':' text)
        return text) == some [])
  | [] => false

/-- Whether a text is a date, a time, or both. Only both together may have an offset. -/
def isMoment (text : List Char) : Bool :=
  match date? text with
  | none => time? text == some []
  | some [] => true
  | some (separator :: text) =>
    (separator == 'T' || separator == 't' || separator == ' ') &&
      match time? text with
      | some rest => rest.isEmpty || isOffset rest
      | none => false

/-- Whether a character may stand in a word. -/
def isWordChar (c : Char) : Bool :=
  c.isAlphanum || c == '_' || c == '+' || c == '-' || c == '.' || c == ':'

/-- The word at the start of a text, and the text behind it. A date takes a time with it that follows
after one space.
-/
def spanWord (text : List Char) : List Char × List Char :=
  let word := text.takeWhile isWordChar
  let rest := text.dropWhile isWordChar
  match rest with
  | ' ' :: next =>
    if date? word == some [] && (next.head?.map Char.isDigit).getD false then
      (word ++ ' ' :: next.takeWhile isWordChar, next.dropWhile isWordChar)
    else
      (word, rest)
  | _ => (word, rest)

/-- The value that a word denotes. -/
def ofWord? (word : List Char) : Option Value :=
  if word == ['t', 'r', 'u', 'e'] then some (.bool true)
  else if word == ['f', 'a', 'l', 's', 'e'] then some (.bool false)
  else
    match integer? word with
    | some value => some (.integer value)
    | none =>
      if isFloat word then some (.float (String.ofList word))
      else if isMoment word then some (.moment (String.ofList word))
      else none

/-- A word at the start of a text as a value, and the text behind it. -/
def scalar? (text : List Char) : Option (Value × List Char) :=
  let (word, rest) := spanWord text
  (ofWord? word).map fun value => (value, rest)

end Docpress.Toml
