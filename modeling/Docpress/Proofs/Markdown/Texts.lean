import Docpress.Markdown.Block

/-!
What an author has written in parsed Markdown: its blocks in document order, and the pieces of text in
them.
-/

namespace Docpress.Markdown

variable {α : Type}

mutual

/-- A block and the blocks within it, in document order. -/
def Block.preorder : Block α → List (Block α)
  | .quote children => .quote children :: Block.preorderAll children
  | .list start items => .list start items :: Block.preorderItems items
  | .other tag children => .other tag children :: Block.preorderAll children
  | block => [block]

/-- The blocks of a list of blocks, in document order. -/
def Block.preorderAll : List (Block α) → List (Block α)
  | [] => []
  | block :: rest => block.preorder ++ Block.preorderAll rest

/-- The blocks of list items, in document order. -/
def Block.preorderItems : List (List (Block α)) → List (Block α)
  | [] => []
  | item :: rest => Block.preorderAll item ++ Block.preorderItems rest

end

/-- The blocks in blocks are those in each block, by induction on the blocks. -/
theorem Block.preorderAll_eq_flatMap (blocks : List (Block α))
    : Block.preorderAll blocks = blocks.flatMap Block.preorder := by
  induction blocks with
  | nil => rfl
  | cons block rest ih => rw [Block.preorderAll, List.flatMap_cons, ih]

/-- The blocks in list items are those in the items put together, by induction on the items. -/
theorem Block.preorderItems_eq_flatten (items : List (List (Block α)))
    : Block.preorderItems items = Block.preorderAll items.flatten := by
  induction items with
  | nil => rfl
  | cons item rest ih =>
      rw [Block.preorderItems, ih, List.flatten_cons, preorderAll_eq_flatMap,
        preorderAll_eq_flatMap, preorderAll_eq_flatMap, List.flatMap_append]

mutual

/-- The pieces of text in a piece of running text, in order. A soft break is a line end, and an image
has none, whatever its description holds.
-/
def Inline.texts : Inline → List String
  | .text value => [value]
  | .softBreak => ["\n"]
  | .lineBreak => []
  | .code literal => [literal]
  | .html markup => [markup]
  | .emphasis children => Inline.textsAll children
  | .strong children => Inline.textsAll children
  | .strikethrough children => Inline.textsAll children
  | .link _ _ children => Inline.textsAll children
  | .image .. => []
  | .other _ children => Inline.textsAll children

/-- The pieces of text in running text, in order. -/
def Inline.textsAll : List Inline → List String
  | [] => []
  | content :: rest => content.texts ++ Inline.textsAll rest

end

/-- The texts of inline content are those of each piece, by induction on the content. -/
theorem Inline.textsAll_eq_flatMap (content : List Inline)
    : Inline.textsAll content = content.flatMap Inline.texts := by
  induction content with
  | nil => rfl
  | cons piece rest ih => rw [Inline.textsAll, List.flatMap_cons, ih]

mutual

/-- The pieces of text in a block, in order. Settings in front of a document have none. -/
def Block.texts : Block (List Inline) → List String
  | .paragraph content => Inline.textsAll content
  | .heading _ content => Inline.textsAll content
  | .thematicBreak => []
  | .code _ literal => [literal]
  | .html markup => [markup]
  | .quote children => Block.textsAll children
  | .list _ items => Block.textsItems items
  | .table headers rows =>
    headers.flatMap Inline.textsAll ++ rows.flatMap fun row => row.flatMap Inline.textsAll
  | .frontMatter _ => []
  | .other _ children => Block.textsAll children

/-- The pieces of text in a list of blocks, in order. -/
def Block.textsAll : List (Block (List Inline)) → List String
  | [] => []
  | block :: rest => block.texts ++ Block.textsAll rest

/-- The pieces of text in list items, in order. -/
def Block.textsItems : List (List (Block (List Inline))) → List String
  | [] => []
  | item :: rest => Block.textsAll item ++ Block.textsItems rest

end

/-- The texts of blocks are those of each block, by induction on the blocks. -/
theorem Block.textsAll_eq_flatMap (blocks : List (Block (List Inline)))
    : Block.textsAll blocks = blocks.flatMap Block.texts := by
  induction blocks with
  | nil => rfl
  | cons block rest ih => rw [Block.textsAll, List.flatMap_cons, ih]

/-- The texts of list items are those of each item, by induction on the items. -/
theorem Block.textsItems_eq_flatMap (items : List (List (Block (List Inline))))
    : Block.textsItems items = items.flatMap Block.textsAll := by
  induction items with
  | nil => rfl
  | cons item rest ih => rw [Block.textsItems, List.flatMap_cons, ih]

end Docpress.Markdown
