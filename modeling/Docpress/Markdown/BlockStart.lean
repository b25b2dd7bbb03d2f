import Docpress.Markdown.Line
import Docpress.Text.Digit

/-!
The markers at the start of lines that open or close blocks. Each reader gets the content of a line,
without the blanks before it.
-/

namespace Docpress.Markdown.BlockStart

open Text

/-- How far content must be indented to be code. -/
def codeIndent : Nat := 4

/-- The level of a heading line and the text behind its marks. -/
def heading? (content : List Char) : Option (Nat × List Char) :=
  let level := (content.takeWhile (· == '#')).length
  let rest := content.drop level
  if 1 ≤ level ∧ level ≤ 6 ∧ (rest.head?.all isSpaceOrTab) then some (level, rest) else none

/-- The text of a heading without the marks that may close it, which a blank must set off. -/
def headingText (text : List Char) : List Char :=
  let body := trimEndBy isAsciiBlank (text.dropWhile isSpaceOrTab)
  let unclosed := trimEndBy (· == '#') body
  if unclosed.getLast?.all isSpaceOrTab then trimEndBy isAsciiBlank unclosed else body

/-- The level of the heading that a line of equals signs or dashes makes of a paragraph. -/
def underline? (content : List Char) : Option Nat :=
  let under (mark : Char) : Bool :=
    content.head? == some mark && (content.dropWhile (· == mark)).all isSpaceOrTab
  if under '=' then some 1
  else if under '-' then some 2
  else none

/-- Whether a line is a thematic break: at least three equal marks with blanks between them. -/
def isThematicBreak (content : List Char) : Bool :=
  ['*', '_', '-'].any fun mark =>
    content.all (fun c => c == mark || isSpaceOrTab c) && 3 ≤ content.count mark

/-- The opening of a fenced code block. -/
structure Fence where
  mark : Char
  length : Nat
  /-- The indentation of the opening, of which as much is taken from the lines of code. -/
  indent : Nat
  deriving Repr, DecidableEq

/-- The shortest fence. -/
def minFence : Nat := 3

/-- The mark and the length of a fence, and its info string. No grave accent may follow a fence of
grave accents.
-/
def fence? (content : List Char) : Option (Char × Nat × List Char) :=
  match content with
  | mark :: _ =>
    let length := (content.takeWhile (· == mark)).length
    let info := content.drop length
    if (mark == '~' || (mark == '\x60' && !info.contains '\x60')) && minFence ≤ length then
      some (mark, length, info)
    else
      none
  | [] => none

/-- Whether a line closes a fenced code block. -/
def closesFence (fence : Fence) (content : List Char) : Bool :=
  let length := (content.takeWhile (· == fence.mark)).length
  max minFence fence.length ≤ length && (content.drop length).all isSpaceOrTab

/-- What the items of one list have in common. -/
inductive ListKind where
  | bullet (mark : Char)
  /-- An ordered list, with the character after its numbers. -/
  | ordered (closing : Char)
  deriving Repr, DecidableEq

/-- The marker of a list item. -/
structure ItemMarker where
  kind : ListKind
  /-- The number of an ordered item. -/
  start : Nat
  /-- The number of characters of the marker. -/
  width : Nat
  deriving Repr, DecidableEq

/-- How many digits the number of an item may have. -/
def maxNumberDigits : Nat := 9

/-- Whether an item may start with this text behind its marker: a blank must follow, and after the
line of a paragraph there must be content too.
-/
def canFollowMarker (inParagraph : Bool) (rest : List Char) : Bool :=
  rest.head?.all isAsciiBlank && !(inParagraph && rest.all isSpaceOrTab)

/-- The marker of a list item. An ordered item that follows the line of a paragraph must have the
number 1, and its marker must not be the end of a line without an end.
-/
def item? (inParagraph ended : Bool) (content : List Char) : Option ItemMarker :=
  match content with
  | [] => none
  | mark :: rest =>
    if mark == '*' || mark == '-' || mark == '+' then
      if canFollowMarker inParagraph rest then some ⟨.bullet mark, 1, 1⟩ else none
    else
      let digits := (content.take maxNumberDigits).takeWhile Char.isDigit
      let start := natOfDigits digits
      match content.drop digits.length with
      | closing :: rest =>
        if !digits.isEmpty && (closing == '.' || closing == ')')
            && !(inParagraph && start != 1) && (ended || !rest.isEmpty)
            && canFollowMarker inParagraph rest then
          some ⟨.ordered closing, start, digits.length + 1⟩
        else
          none
      | [] => none

end Docpress.Markdown.BlockStart
