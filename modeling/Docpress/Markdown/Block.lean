/-!
Parsed Markdown: blocks that hold blocks or running text, and the running text itself. Blocks are
generic in the running text, which is first kept as written and parsed when all blocks are known.
-/

namespace Docpress.Markdown

/-- A piece of running text. -/
inductive Inline where
  | text (value : String)
  | softBreak
  | lineBreak
  | code (literal : String)
  /-- A tag, comment or other markup within a line. -/
  | html (markup : String)
  | emphasis (children : List Inline)
  | strong (children : List Inline)
  | strikethrough (children : List Inline)
  | link (target title : String) (children : List Inline)
  | image (source title : String) (children : List Inline)
  /-- Any other construct, with its tag. -/
  | other (tag : String) (children : List Inline)
  deriving Repr, Inhabited

/-- A block, with running text of type `α`. -/
inductive Block (α : Type) where
  | paragraph (content : α)
  | heading (level : Nat) (content : α)
  | thematicBreak
  /-- A fenced or indented code block with its info string. -/
  | code (info literal : String)
  | html (markup : String)
  | quote (children : List (Block α))
  /-- A list, with the number of its first item if it is ordered. -/
  | list (start : Option Nat) (items : List (List (Block α)))
  | table (headers : List α) (rows : List (List α))
  /-- Settings in front of the document. -/
  | frontMatter (text : String)
  /-- Any other construct, with its tag. -/
  | other (tag : String) (children : List (Block α))
  deriving Repr, Inhabited

mutual

/-- The block with its running text converted. -/
def Block.map (f : α → β) : Block α → Block β
  | .paragraph content => .paragraph (f content)
  | .heading level content => .heading level (f content)
  | .thematicBreak => .thematicBreak
  | .code info literal => .code info literal
  | .html markup => .html markup
  | .quote children => .quote (Block.mapAll f children)
  | .list start items => .list start (Block.mapItems f items)
  | .table headers rows => .table (headers.map f) (rows.map (·.map f))
  | .frontMatter text => .frontMatter text
  | .other tag children => .other tag (Block.mapAll f children)

/-- The blocks with their running text converted. -/
def Block.mapAll (f : α → β) : List (Block α) → List (Block β)
  | [] => []
  | block :: rest => block.map f :: Block.mapAll f rest

/-- The list items with their running text converted. -/
def Block.mapItems (f : α → β) : List (List (Block α)) → List (List (Block β))
  | [] => []
  | item :: rest => Block.mapAll f item :: Block.mapItems f rest

end

/-- A reader of Markdown, with or without the extensions of GFM. Nothing is assumed of the blocks that it
makes of a text.
-/
class Reader where
  read : (gfm : Bool) → (source : String) → List (Block (List Inline))

end Docpress.Markdown
