/-!
Settings in front of a document, between two lines of three hyphens.
-/

namespace Docpress.Markdown.FrontMatter

/-- The line around the settings. -/
def fence : List Char := "---".toList

/-- A text split before the first place where `part` stands, without `part`. -/
def splitAt? (part : List Char) (text : List Char) : Option (List Char × List Char) :=
  if part.isPrefixOf text then
    some ([], text.drop part.length)
  else
    match text with
    | [] => none
    | c :: rest => (splitAt? part rest).map fun (before, after) => (c :: before, after)

/-- The text behind a line end, if it starts with one. -/
def dropLineEnd? : List Char → Option (List Char)
  | '\n' :: rest => some rest
  | '\r' :: '\n' :: rest => some rest
  | _ => none

/-- The settings and what follows them, given the text behind the opening line. A closing line that
ends in carriage return and line feed goes first, and one that ends the text last.
-/
def splitBody? (text : List Char) : Option (List Char × List Char) :=
  splitAt? ('\n' :: fence ++ ['\r', '\n']) text
    <|> splitAt? ('\n' :: fence ++ ['\n']) text
    <|> (if ('\n' :: fence).isSuffixOf text then
          some (text.take (text.length - fence.length - 1), [])
        else
          none)

/-- The settings in front of a document and the rest of it, without one blank line between them. The
opening line must be the first one, though a byte order mark may stand before it.
-/
def split? (text : List Char) : Option (List Char × List Char) := do
  let text := match text with
    | '\uFEFF' :: text => text
    | _ => text
  if fence.isPrefixOf text then
    let (settings, rest) ← splitBody? (← dropLineEnd? (text.drop fence.length))
    return (settings, (dropLineEnd? rest).getD rest)
  else
    none

end Docpress.Markdown.FrontMatter
