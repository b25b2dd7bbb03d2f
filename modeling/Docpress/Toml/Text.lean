import Docpress.Text.Digit
import Docpress.Text.WhiteSpace

/-!
The four kinds of TOML strings. The raw text between the quotes is cut out first; then its characters
are checked and its escapes are resolved.
-/

namespace Docpress.Toml

open Text

/-- The quote of strings without escapes. -/
def literalQuote : Char := '\x27'

/-- The quote of strings with escapes. -/
def basicQuote : Char := '"'

/-- Whether strings and comments may hold a character: all but the control characters, with the
exception of the tab.
-/
def isPlain (c : Char) : Bool :=
  c == '\t' || !isControl c

/-- Puts characters in front of the first of two texts. -/
def prepend (taken : List Char) (split : List Char × List Char) : List Char × List Char :=
  (taken ++ split.1, split.2)

/-- The text up to a quote, and the text behind it. With `escapes` a backslash protects the character
behind it.
-/
def spanQuoted (quote : Char) (escapes : Bool) : List Char → Option (List Char × List Char)
  | [] => none
  | '\\' :: c :: rest =>
    if escapes then (spanQuoted quote escapes rest).map (prepend ['\\', c])
    else (spanQuoted quote escapes (c :: rest)).map (prepend ['\\'])
  | c :: rest =>
    if c == quote then some ([], rest)
    else (spanQuoted quote escapes rest).map (prepend [c])

/-- The text up to three quotes, and the text behind them. Of a longer run of quotes the last three
close the string, if there are at most five.
-/
def spanTripled (quote : Char) (escapes : Bool) : List Char → Option (List Char × List Char)
  | [] => none
  | '\\' :: c :: rest =>
    if escapes then (spanTripled quote escapes rest).map (prepend ['\\', c])
    else (spanTripled quote escapes (c :: rest)).map (prepend ['\\'])
  | c :: rest =>
    let run := ((c :: rest).takeWhile (· == quote)).length
    if 3 ≤ run then
      let inner := min run 5 - 3
      some (List.replicate inner quote, (c :: rest).drop (inner + 3))
    else
      (spanTripled quote escapes rest).map (prepend [c])

/-- The text with line feeds for its line breaks. There must be no other control characters. -/
def lines? : List Char → Option (List Char)
  | [] => some []
  | '\n' :: rest => (lines? rest).map ('\n' :: ·)
  | '\r' :: '\n' :: rest => (lines? rest).map ('\n' :: ·)
  | c :: rest => if isPlain c then (lines? rest).map (c :: ·) else none

/-- A line break right behind the opening quotes does not belong to the string. -/
def dropFirstBreak : List Char → List Char
  | '\n' :: rest => rest
  | text => text

/-- The text, if it has one line and no control characters. -/
def oneLine? (text : List Char) : Option (List Char) :=
  if text.all isPlain then some text else none

/-- The character that a backslash and one more character stand for. -/
def simpleEscape? (c : Char) : Option Char :=
  match c with
  | 'b' => some '\x08'
  | 't' => some '\t'
  | 'n' => some '\n'
  | 'f' => some '\x0c'
  | 'r' => some '\r'
  | 'e' => some '\x1b'
  | '"' => some '"'
  | '\\' => some '\\'
  | _ => none

/-- The character whose code point the hexadecimal digits give. -/
def codePoint? (digits : List Char) : Option Char :=
  let code := natOfBase 16 digits
  if digits.all isHexDigit && code.isValidChar then some (Char.ofNat code) else none

/-- Whether a character is a blank or a line break. -/
def isBlankOrBreak (c : Char) : Bool :=
  isSpaceOrTab c || c == '\n'

/-- Whether nothing but blanks stands on the rest of the line. -/
def endsLine (text : List Char) : Bool :=
  (text.dropWhile isSpaceOrTab).head? == some '\n'

/-- Resolves the escapes of a text. A backslash at the end of a line drops all blanks and line breaks
behind it; `skipping` holds among those.
-/
def unescape? : (skipping : Bool) → List Char → Option (List Char)
  | _, [] => some []
  | _, '\\' :: 'x' :: a :: b :: rest => do
    let c ← codePoint? [a, b]
    return c :: (← unescape? false rest)
  | _, '\\' :: 'u' :: a :: b :: c :: d :: rest => do
    let c ← codePoint? [a, b, c, d]
    return c :: (← unescape? false rest)
  | _, '\\' :: 'U' :: a :: b :: c :: d :: e :: f :: g :: h :: rest => do
    let c ← codePoint? [a, b, c, d, e, f, g, h]
    return c :: (← unescape? false rest)
  | _, '\\' :: c :: rest =>
    if endsLine (c :: rest) then
      unescape? true (c :: rest)
    else do
      let c ← simpleEscape? c
      return c :: (← unescape? false rest)
  | skipping, c :: rest =>
    if c == '\\' then none
    else if skipping && isBlankOrBreak c then unescape? true rest
    else (unescape? false rest).map (c :: ·)

/-- A string of one line at the start of a text, and the text behind it. -/
def quoted? : List Char → Option (String × List Char)
  | [] => none
  | c :: text =>
    if c == basicQuote then do
      let (body, rest) ← spanQuoted c true text
      let body ← unescape? false (← oneLine? body)
      return (String.ofList body, rest)
    else if c == literalQuote then do
      let (body, rest) ← spanQuoted c false text
      return (String.ofList (← oneLine? body), rest)
    else
      none

/-- A string of any kind at the start of a text, and the text behind it. -/
def string? (text : List Char) : Option (String × List Char) :=
  if [basicQuote, basicQuote, basicQuote].isPrefixOf text then do
    let (body, rest) ← spanTripled basicQuote true (text.drop 3)
    let body ← unescape? false (dropFirstBreak (← lines? body))
    return (String.ofList body, rest)
  else if [literalQuote, literalQuote, literalQuote].isPrefixOf text then do
    let (body, rest) ← spanTripled literalQuote false (text.drop 3)
    return (String.ofList (dropFirstBreak (← lines? body)), rest)
  else
    quoted? text

end Docpress.Toml
