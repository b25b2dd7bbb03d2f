import Docpress.Markdown.Block
import Docpress.Node
import Docpress.Options
import Docpress.Render.Error
import Docpress.Table

/-!
The node tree of parsed Markdown. Code blocks marked as tables are tables of cells whose texts are
parsed as documents of their own; the reader of such texts is a parameter. What nests too deep is an
error, and since every cell stands deeper than its table, the reading of cells within cells ends.
-/

namespace Docpress.Node

open Markdown

/-- What a document reader makes of a text. -/
abbrev BlockReader := String → List (Block (List Inline))

/-- The error for a node below the deepest level. -/
def tooDeep : RenderError := .nestingTooDeep maxNesting

/-- A text, unless it is empty. -/
def nonEmpty? (text : String) : Option String :=
  if text.isEmpty then none else some text

/-- The node of a piece of running text, for which `levels` levels are left. -/
def ofInline (levels : Nat) (content : Inline) : Except RenderError Node :=
  match levels with
  | 0 => .error tooDeep
  | levels + 1 =>
    match content with
    | .text value => .ok (text value)
    | .softBreak => .ok (leaf .softBreak)
    | .lineBreak => .ok (leaf .lineBreak)
    | .code literal => .ok (code literal)
    | .html markup => .ok (leaf (.html markup))
    | .emphasis children => (children.mapM (ofInline levels)).map (plain .emphasis)
    | .strong children => (children.mapM (ofInline levels)).map (plain .strong)
    | .strikethrough children => (children.mapM (ofInline levels)).map (plain .strikethrough)
    | .link target title children =>
      (children.mapM (ofInline levels)).map
        (plain (.link (nonEmpty? target) (nonEmpty? title) .empty))
    | .image source title children =>
      (children.mapM (ofInline levels)).map fun children =>
        leaf (.image source (textOfAll children) (nonEmpty? title) .empty)
    | .other tag children => (children.mapM (ofInline levels)).map (plain (.other tag))

/-- The info word that marks a table. -/
def tableInfo : String := "table"

/-- The language that an info string names. -/
def infoLanguage? (info : String) : Option String :=
  (Text.firstWord? info.toList).map String.ofList

/-- The node of a code block that is no table. -/
def ofCode (language : Option String) (literal : String) : Node :=
  let attrs : Attributes := match language with
    | some language => Attributes.empty.set "class" ("language-" ++ language)
    | none => .empty
  plain .pre [leaf (.code literal language attrs)]

/-- The table that a code block holds, if it is marked as one and can be read. -/
def structuredTable? (options : RenderOptions) (language : Option String) (literal : String)
    : Option (Table Json) :=
  if options.structuredTables && language == some tableInfo then Table.ofText? literal else none

/-- The text of a cell: a string as it is, nothing for null, and else the value as compact JSON. -/
def cellText : Json → String
  | .string text => text
  | .null => ""
  | value => value.compact

/-- The children of a cell with the given blocks. Paragraphs give their running text alone. -/
def cellChildren (ofInline : Inline → Except RenderError Node)
    (ofBlock : Block (List Inline) → Except RenderError (List Node))
    (blocks : List (Block (List Inline)))
    : Except RenderError (List Node) :=
  let ofBlock (block : Block (List Inline)) : Except RenderError (List Node) :=
    match block with
    | .paragraph content => content.mapM ofInline
    | block => ofBlock block
  (blocks.mapM ofBlock).map List.flatten

/-- The nodes of a block, for which `levels` levels are left: one node, or none for settings. -/
def ofBlock (read : BlockReader) (options : RenderOptions) (levels : Nat)
    (block : Block (List Inline))
    : Except RenderError (List Node) :=
  match levels with
  | 0 => .error tooDeep
  | levels + 1 =>
    match block with
    | .frontMatter _ => .ok []
    | .paragraph content => (content.mapM (ofInline levels)).map fun nodes => [plain .paragraph nodes]
    | .heading level content =>
      (content.mapM (ofInline levels)).map fun nodes => [plain (.heading level) nodes]
    | .thematicBreak => .ok [leaf .thematicBreak]
    | .html markup => .ok [leaf (.html markup)]
    | .quote children =>
      (children.mapM (ofBlock read options levels)).map fun nodes =>
        [plain .blockQuote nodes.flatten]
    | .other tag children =>
      (children.mapM (ofBlock read options levels)).map fun nodes =>
        [plain (.other tag) nodes.flatten]
    | .list start items =>
      let ofItem (item : List (Block (List Inline))) : Except RenderError Node :=
        match levels with
        | 0 => .error tooDeep
        | levels + 1 =>
          (item.mapM (ofBlock read options levels)).map fun nodes => plain .listItem nodes.flatten
      (items.mapM ofItem).map fun nodes => [plain (.list start.isSome start) nodes]
    | .table headers rows => do
      let ofCell (content : List Inline) : Except RenderError Node :=
        (content.mapM (ofInline (levels - 1))).map (plain .tableCell)
      let headers ← headers.mapM ofCell
      let rows ← rows.mapM (·.mapM ofCell)
      return [table [] headers rows]
    | .code info literal =>
      let language := infoLanguage? info
      match structuredTable? options language literal with
      | none => .ok [ofCode language literal]
      | some cells =>
        let ofCellBlock (block : Block (List Inline)) : Except RenderError (List Node) :=
          match levels with
          | 0 => .error tooDeep
          | levels + 1 => ofBlock read options levels block
        let ofCell (cell : Json) : Except RenderError Node :=
          (cellChildren (ofInline (levels - 1)) ofCellBlock (read (cellText cell))).map
            (plain .tableCell)
        (cells.tryMap ofCell).map fun cells => [table [] cells.headers cells.rows]

/-- The tree of a document with the given blocks. -/
def ofBlocks (read : BlockReader) (options : RenderOptions) (blocks : List (Block (List Inline)))
    : Except RenderError Node :=
  (blocks.mapM (ofBlock read options maxNesting)).map fun nodes => plain .document nodes.flatten

/-- The tree of a document, with its text read by `read`. -/
def ofSource (read : BlockReader) (options : RenderOptions) (source : String)
    : Except RenderError Node :=
  ofBlocks read options (read source)

end Docpress.Node
