import Docpress.Node

/-!
The types of nodes, by which renderers are chosen, and their names.
-/

namespace Docpress

/-- The type of a node: its kind without the contents. -/
inductive NodeType where
  | document
  | paragraph
  | h1
  | h2
  | h3
  | h4
  | h5
  | h6
  | text
  | emphasis
  | strong
  | strikethrough
  | link
  | image
  | code
  | pre
  | table
  | tableCell
  | blockQuote
  | orderedList
  | unorderedList
  | listItem
  | thematicBreak
  | softBreak
  | lineBreak
  | html
  | other (tag : String)
  deriving Repr, DecidableEq, Inhabited

namespace NodeType

/-- The heading types, by level. -/
def headings : List NodeType := [.h1, .h2, .h3, .h4, .h5, .h6]

/-- The heading type of a level from 1 to 6. -/
def heading? : Nat → Option NodeType
  | 1 => some .h1
  | 2 => some .h2
  | 3 => some .h3
  | 4 => some .h4
  | 5 => some .h5
  | 6 => some .h6
  | _ => none

/-- The tag that names a type. -/
def name : NodeType → String
  | .document => "root"
  | .paragraph => "p"
  | .h1 => "h1"
  | .h2 => "h2"
  | .h3 => "h3"
  | .h4 => "h4"
  | .h5 => "h5"
  | .h6 => "h6"
  | .text => "text"
  | .emphasis => "em"
  | .strong => "strong"
  | .strikethrough => "del"
  | .link => "a"
  | .image => "img"
  | .code => "code"
  | .pre => "pre"
  | .table => "Table"
  | .tableCell => "td"
  | .blockQuote => "blockquote"
  | .orderedList => "ol"
  | .unorderedList => "ul"
  | .listItem => "li"
  | .thematicBreak => "hr"
  | .softBreak => "softbreak"
  | .lineBreak => "br"
  | .html => "html"
  | .other tag => tag

/-- The known tags, each with its type. Elements and components may go by several names. -/
def namedTypes : List (String × NodeType) :=
  [("root", .document), ("document", .document), ("p", .paragraph), ("paragraph", .paragraph),
    ("h1", .h1), ("h2", .h2), ("h3", .h3), ("h4", .h4), ("h5", .h5), ("h6", .h6),
    ("text", .text), ("em", .emphasis), ("emphasis", .emphasis), ("strong", .strong),
    ("del", .strikethrough), ("strikethrough", .strikethrough), ("a", .link), ("link", .link),
    ("img", .image), ("image", .image), ("Image", .image), ("code", .code), ("pre", .pre),
    ("table", .table), ("Table", .table), ("td", .tableCell), ("th", .tableCell),
    ("blockquote", .blockQuote), ("ol", .orderedList), ("ul", .unorderedList), ("li", .listItem),
    ("hr", .thematicBreak), ("softbreak", .softBreak), ("br", .lineBreak), ("html", .html)]

/-- The type that a tag stands for. A tag that names no type stands for a type of its own. -/
def ofName (tag : String) : NodeType :=
  (namedTypes.lookup tag).getD (.other tag)

/-- The word for a type in listings, and its place in their order. -/
def labelAndRank : NodeType → String × Nat
  | .document => ("Document", 0)
  | .paragraph => ("Paragraph", 1)
  | .h1 => ("H1", 2)
  | .h2 => ("H2", 3)
  | .h3 => ("H3", 4)
  | .h4 => ("H4", 5)
  | .h5 => ("H5", 6)
  | .h6 => ("H6", 7)
  | .text => ("Text", 8)
  | .emphasis => ("Emphasis", 9)
  | .strong => ("Strong", 10)
  | .strikethrough => ("Strikethrough", 11)
  | .link => ("Link", 12)
  | .image => ("Image", 13)
  | .code => ("Code", 14)
  | .pre => ("Pre", 15)
  | .table => ("Table", 16)
  | .tableCell => ("TableCell", 17)
  | .blockQuote => ("BlockQuote", 18)
  | .orderedList => ("OrderedList", 19)
  | .unorderedList => ("UnorderedList", 20)
  | .listItem => ("ListItem", 21)
  | .thematicBreak => ("ThematicBreak", 22)
  | .softBreak => ("SoftBreak", 23)
  | .lineBreak => ("LineBreak", 24)
  | .html => ("Html", 25)
  | .other _ => ("Other", 26)

/-- The word for a type in listings. -/
def label (type : NodeType) : String := type.labelAndRank.1

/-- The place of a type in listings. All other types share the last place. -/
def rank (type : NodeType) : Nat := type.labelAndRank.2

/-- The order of listings: by rank, and other types by their tags. -/
def le (left right : NodeType) : Bool :=
  match left, right with
  | .other leftTag, .other rightTag => leftTag ≤ rightTag
  | _, _ => left.rank ≤ right.rank

end NodeType

/-- The type of a node. A heading whose level is not from 1 to 6 has a type of its own. -/
def Node.type : Node → NodeType
  | .table .. => .table
  | .plain kind _ =>
    match kind with
    | .document => .document
    | .paragraph => .paragraph
    | .heading level => (NodeType.heading? level).getD (.other ("h" ++ toString level))
    | .text _ => .text
    | .emphasis => .emphasis
    | .strong => .strong
    | .strikethrough => .strikethrough
    | .link .. => .link
    | .image .. => .image
    | .code .. => .code
    | .pre => .pre
    | .tableCell => .tableCell
    | .blockQuote => .blockQuote
    | .list true _ => .orderedList
    | .list false _ => .unorderedList
    | .listItem => .listItem
    | .thematicBreak => .thematicBreak
    | .softBreak => .softBreak
    | .lineBreak => .lineBreak
    | .html _ => .html
    | .other tag => .other tag

end Docpress
