import Docpress.Text.WhiteSpace

/-!
The parts that links are written with: labels in brackets, targets and titles. Each reader returns
what it read and the text behind it.
-/

namespace Docpress.Markdown.LinkParts

open Text

/-- How many bytes a label may have. -/
def maxLabelBytes : Nat := 1000

/-- How many parentheses may be open at once in a target. -/
def maxParentheses : Nat := 32

/-- A label up to its closing bracket, after `bytes` bytes of it. A bracket within a label is
escaped.
-/
def labelBody? (bytes : Nat) : List Char → Option (List Char × List Char)
  | [] => none
  | ']' :: rest => some ([], rest)
  | '[' :: _ => none
  | '\\' :: c :: rest =>
    if isAsciiPunctuation c then
      if maxLabelBytes < bytes + 2 then none
      else (labelBody? (bytes + 2) rest).map fun (label, rest) => ('\\' :: c :: label, rest)
    else if maxLabelBytes < bytes + 1 then
      none
    else
      (labelBody? (bytes + 1) (c :: rest)).map fun (label, rest) => ('\\' :: label, rest)
  | c :: rest =>
    if maxLabelBytes < bytes + c.utf8Size then none
    else (labelBody? (bytes + c.utf8Size) rest).map fun (label, rest) => (c :: label, rest)

/-- A label in brackets, without the blanks at its ends. -/
def label? : List Char → Option (List Char × List Char)
  | '[' :: rest => (labelBody? 0 rest).map fun (label, rest) => (trimBy isAsciiBlank label, rest)
  | _ => none

/-- A target after its opening angle bracket. -/
def angleTarget? : List Char → Option (List Char × List Char)
  | '>' :: rest => some ([], rest)
  | '\\' :: c :: rest => (angleTarget? rest).map fun (target, rest) => ('\\' :: c :: target, rest)
  | c :: rest =>
    if c == '\n' || c == '<' then none
    else (angleTarget? rest).map fun (target, rest) => (c :: target, rest)
  | [] => none

/-- A target without angle brackets, with `level` parentheses open. It ends at a blank, at a
parenthesis that closes none of its own, or at the end.
-/
def bareTarget? (level : Nat) : List Char → Option (List Char × List Char)
  | [] => if level = 0 then some ([], []) else none
  | '\\' :: c :: rest =>
    if isAsciiPunctuation c then
      (bareTarget? level rest).map fun (target, rest) => ('\\' :: c :: target, rest)
    else
      (bareTarget? level (c :: rest)).map fun (target, rest) => ('\\' :: target, rest)
  | c :: rest =>
    if c == '(' then
      if level < maxParentheses then
        (bareTarget? (level + 1) rest).map fun (target, rest) => (c :: target, rest)
      else
        none
    else if c == ')' then
      match level with
      | 0 => some ([], c :: rest)
      | level + 1 => (bareTarget? level rest).map fun (target, rest) => (c :: target, rest)
    else if isAsciiBlank c || isControl c then
      if level = 0 then some ([], c :: rest) else none
    else
      (bareTarget? level rest).map fun (target, rest) => (c :: target, rest)

/-- A target. -/
def target? : List Char → Option (List Char × List Char)
  | '<' :: rest => angleTarget? rest
  | text => bareTarget? 0 text

/-- The text behind the last mark that can close a title, or `best` if there is none. A closing mark
without a backslash before it is the last one, and a parenthesis must not be opened again.
-/
def behindTitle? (close : Char) (best : Option (List Char)) (escaped : Bool)
    : List Char → Option (List Char)
  | [] => best
  | c :: rest =>
    if c == close then
      if escaped then behindTitle? close (some rest) false rest else some rest
    else if close == ')' && c == '(' && !escaped then
      best
    else
      behindTitle? close best (c == '\\') rest

/-- The text behind a title, if there is a title. -/
def skipTitle? : List Char → Option (List Char)
  | '"' :: rest => behindTitle? '"' none false rest
  | '\'' :: rest => behindTitle? '\'' none false rest
  | '(' :: rest => behindTitle? ')' none false rest
  | _ => none

/-- A title with its quotes or parentheses, or nothing if there is none. -/
def title (text : List Char) : List Char × List Char :=
  match skipTitle? text with
  | some rest => (text.take (text.length - rest.length), rest)
  | none => ([], text)

end Docpress.Markdown.LinkParts
