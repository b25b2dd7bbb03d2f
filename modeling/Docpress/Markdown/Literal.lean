import Docpress.Markdown.Entity
import Docpress.Text.Lowercase

/-!
How written link targets, titles, labels, info strings and code spans become plain text.
-/

namespace Docpress.Markdown

open Text

/-- Drops every backslash that stands before ASCII punctuation. -/
def dropBackslashes : List Char → List Char
  | [] => []
  | '\\' :: c :: rest =>
    if isAsciiPunctuation c then c :: dropBackslashes rest else '\\' :: dropBackslashes (c :: rest)
  | c :: rest => c :: dropBackslashes rest

/-- The text with its references replaced and then its escapes. -/
def plainText (text : List Char) : List Char :=
  dropBackslashes (Entity.unescape text)

/-- The target of a link. -/
def targetText (target : List Char) : List Char :=
  plainText (trimBy isAsciiBlank target)

/-- Whether a character opens a title, and which one closes it. -/
def closingQuote? (c : Char) : Option Char :=
  if c == '"' || c == '\'' then some c
  else if c == '(' then some ')'
  else none

/-- The title of a link, without the quotes or parentheses around it. -/
def titleText (title : List Char) : List Char :=
  match title with
  | first :: second :: rest =>
    if closingQuote? first = (second :: rest).getLast? then plainText (second :: rest).dropLast
    else plainText title
  | _ => plainText title

/-- The info string of a code block. -/
def infoText (info : List Char) : List Char :=
  dropBackslashes (trimBy isAsciiBlank (Entity.unescape info))

/-- The target of a link that is written between angle brackets. -/
def bareTargetText (target : List Char) : List Char :=
  Entity.unescape (trimBy isAsciiBlank target)

/-- The form of a label that equal labels share. -/
def normalLabel (label : List Char) : List Char :=
  caseFold (squeezeBlanks ' ' false (trimBy isAsciiBlank label))

/-- The text of a code span. Line ends are blanks, and one blank at each end is dropped if there is
one at both ends and more than blanks between them.
-/
def codeSpanText (text : List Char) : List Char :=
  let line := text.map fun c => if c == '\n' then ' ' else c
  match line with
  | ' ' :: rest =>
    if rest.getLast? = some ' ' ∧ line.any (· != ' ') then rest.dropLast else line
  | _ => line

end Docpress.Markdown
