import Docpress.Markdown.InlineScan

/-!
What is done with running text when its links and emphasis are known: neighbouring texts are joined,
task markers are taken from list items, and mail addresses in plain text become links.
-/

namespace Docpress.Markdown

open Text

namespace Inline

/-- Puts a text in front of running text, joined to a text that is there already. An empty text is
dropped.
-/
def prependText (value : String) (rest : List Inline) : List Inline :=
  if value.isEmpty then rest
  else
    match rest with
    | .text next :: rest => .text (value ++ next) :: rest
    | rest => .text value :: rest

mutual

/-- Running text whose children are joined. -/
def joinInside : Inline → Inline
  | .emphasis children => .emphasis (joinTexts children)
  | .strong children => .strong (joinTexts children)
  | .strikethrough children => .strikethrough (joinTexts children)
  | .link target title children => .link target title (joinTexts children)
  | .image source title children => .image source title (joinTexts children)
  | .other tag children => .other tag (joinTexts children)
  | content => content

/-- Running text in which no two texts are neighbours and none is empty. -/
def joinTexts : List Inline → List Inline
  | [] => []
  | .text value :: rest => prependText value (joinTexts rest)
  | content :: rest => joinInside content :: joinTexts rest

end

/-- The text behind a task marker, if it starts with one: a box with a blank or an x in it, and
blanks or the end behind it.
-/
def afterTaskMarker? (text : List Char) : Option (List Char) :=
  match text.dropWhile isAsciiBlank with
  | '[' :: mark :: ']' :: rest =>
    if (mark == ' ' || mark == 'x' || mark == 'X') && rest.head?.all isAsciiBlank then
      some (rest.dropWhile isAsciiBlank)
    else
      none
  | _ => none

/-- Running text without the task marker at its start. -/
def dropTaskMarker (content : List Inline) : List Inline :=
  match content with
  | .text value :: rest =>
    match afterTaskMarker? value.toList with
    | some behind => prependText (String.ofList behind) rest
    | none => content
  | _ => content

/-- A text in which mail addresses are links. `before` is the reversed text since the last address,
and an address within `depth` open brackets is none.
-/
def linkMailFrom (before : List Char) (depth : Int) (text : List Char) : List Inline :=
  match text with
  | [] => prependText (String.ofList before.reverse) []
  | c :: rest =>
    let depth := if c == '[' then depth + 1 else if c == ']' then depth - 1 else depth
    let found := if c == '@' && depth ≤ 0 then BareLink.mail? before rest else none
    match found with
    | some (target, address, behind) =>
      let mailbox := address.length - (rest.length - behind.length) - 1
      let link : Inline := .link (String.ofList target) "" [.text (String.ofList address)]
      let tail := if behind.length ≤ rest.length then linkMailFrom [] 0 behind else []
      prependText (String.ofList (before.drop mailbox).reverse) (link :: tail)
    | none => linkMailFrom (c :: before) depth rest
termination_by text.length
decreasing_by all_goals simp; try omega

mutual

/-- Running text in whose children mail addresses are links, except within links and images. -/
def linkMailInside : Inline → Inline
  | .emphasis children => .emphasis (linkMail children)
  | .strong children => .strong (linkMail children)
  | .strikethrough children => .strikethrough (linkMail children)
  | .other tag children => .other tag (linkMail children)
  | content => content

/-- Running text in which mail addresses are links. -/
def linkMail : List Inline → List Inline
  | [] => []
  | .text value :: rest => linkMailFrom [] 0 value.toList ++ linkMail rest
  | content :: rest => linkMailInside content :: linkMail rest

end

end Inline

namespace Block

mutual

/-- The block with the task markers taken from the items of its lists. -/
def dropTaskMarkers : Block (List Inline) → Block (List Inline)
  | .quote children => .quote (dropTaskMarkersAll children)
  | .other tag children => .other tag (dropTaskMarkersAll children)
  | .list start items => .list start (dropTaskMarkersItems items)
  | block => block

/-- The blocks with the task markers taken from the items of their lists. -/
def dropTaskMarkersAll : List (Block (List Inline)) → List (Block (List Inline))
  | [] => []
  | block :: rest => block.dropTaskMarkers :: dropTaskMarkersAll rest

/-- The items, each without the task marker at the start of its first paragraph. -/
def dropTaskMarkersItems : List (List (Block (List Inline))) → List (List (Block (List Inline)))
  | [] => []
  | [] :: items => [] :: dropTaskMarkersItems items
  | (.paragraph content :: rest) :: items =>
    (.paragraph (Inline.dropTaskMarker content) :: dropTaskMarkersAll rest)
      :: dropTaskMarkersItems items
  | (block :: rest) :: items =>
    (block.dropTaskMarkers :: dropTaskMarkersAll rest) :: dropTaskMarkersItems items

end

end Block

end Docpress.Markdown
