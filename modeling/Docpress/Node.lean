import Docpress.Attributes

/-!
Document trees. A node has a kind and children; a table has rows of cells as well, each of which is
a node one level below the table.
-/

namespace Docpress

/-- What a node is, apart from tables. -/
inductive Kind where
  | document
  | paragraph
  | heading (level : Nat)
  | text (value : String)
  | emphasis
  | strong
  | strikethrough
  | link (href title : Option String) (attrs : Attributes)
  | image (src alt : String) (title : Option String) (attrs : Attributes)
  /-- A code span, or the inside of a code block. -/
  | code (literal : String) (language : Option String) (attrs : Attributes)
  /-- The element around the code of a code block. -/
  | pre
  | tableCell
  | blockQuote
  | list (ordered : Bool) (start : Option Nat)
  | listItem
  | thematicBreak
  | softBreak
  | lineBreak
  /-- Markup written by the author. -/
  | html (markup : String)
  /-- Any other construct, with its tag. -/
  | other (tag : String)
  deriving Repr, DecidableEq, Inhabited

/-- A document tree. -/
inductive Node where
  /-- A node of any kind but a table. -/
  | plain (kind : Kind) (children : List Node)
  | table (children headers : List Node) (rows : List (List Node))
  deriving Repr, Inhabited

namespace Node

/-- How deep a document may nest, with the root at level 0. -/
def maxNesting : Nat := 128

/-- A node without children. -/
def leaf (kind : Kind) : Node := .plain kind []

/-- A text leaf. -/
def text (value : String) : Node := .leaf (.text value)

/-- A heading of plain text. -/
def heading (level : Nat) (value : String) : Node := .plain (.heading level) [text value]

/-- A link without a title or other attributes. -/
def link (href : Option String) (children : List Node) : Node :=
  .plain (.link href none .empty) children

/-- A code span without a language. -/
def code (literal : String) : Node := .leaf (.code literal none .empty)

/-- The children of a node. -/
def children : Node → List Node
  | .plain _ children => children
  | .table children _ _ => children

/-- The nodes one level below: the children, then the header cells, then the body cells. -/
def nested : Node → List Node
  | .plain _ children => children
  | .table children headers rows => children ++ headers ++ rows.flatten

mutual

/-- The number of nodes in a tree. -/
def count : Node → Nat
  | .plain _ children => 1 + countAll children
  | .table children headers rows => 1 + (countAll children + (countAll headers + countRows rows))

/-- The number of nodes in a list of trees. -/
def countAll : List Node → Nat
  | [] => 0
  | node :: rest => count node + countAll rest

/-- The number of nodes in rows of trees. -/
def countRows : List (List Node) → Nat
  | [] => 0
  | row :: rest => countAll row + countRows rest

end

/-- Counting goes piece by piece. -/
theorem countAll_append (left right : List Node)
    : countAll (left ++ right) = countAll left + countAll right := by
  induction left with
  | nil => simp [countAll]
  | cons node rest ih => simp [countAll, ih, Nat.add_assoc]

/-- Rows count as much as their cells in one list. -/
theorem countAll_flatten (rows : List (List Node)) : countAll rows.flatten = countRows rows := by
  induction rows with
  | nil => simp [countAll, countRows]
  | cons row rest ih => simp [countRows, countAll_append, ih]

/-- A tree has one node more than what is nested in it. -/
theorem count_eq_succ_nested (node : Node) : node.count = countAll node.nested + 1 := by
  cases node with
  | plain kind children => simp [count, nested, Nat.add_comm]
  | table children headers rows =>
      simp only [count, nested, countAll_append, countAll_flatten]
      omega

/-- The nodes of the trees on a stack, each before what is nested in it. -/
def walk : List Node → List Node
  | [] => []
  | node :: rest => node :: walk (node.nested ++ rest)
termination_by stack => countAll stack
decreasing_by simp only [countAll_append, countAll, count_eq_succ_nested]; omega

/-- The node and everything below it, in document order: a node before its children, its children
before its header cells, and those before its body cells.
-/
def descendants (node : Node) : List Node :=
  walk [node]

/-- The measure of `deepest`: the nodes on a stack of trees with levels. -/
def countLevels (stack : List (Node × Nat)) : Nat :=
  countAll (stack.map Prod.fst)

/-- The largest level reached by the trees on a stack, each of which starts at a level of its own. -/
def deepest (reached : Nat) : List (Node × Nat) → Nat
  | [] => reached
  | (node, level) :: rest =>
    deepest (max reached level) (node.nested.map (·, level + 1) ++ rest)
termination_by stack => countLevels stack
decreasing_by
  simp only [countLevels, List.map_append, List.map_map, Function.comp_def, List.map_id',
    List.map_cons, countAll_append, countAll, count_eq_succ_nested]
  omega

/-- The number of levels below a node. A leaf has none. -/
def depth (node : Node) : Nat :=
  deepest 0 [(node, 0)]

mutual

/-- The text of a node without markup. Breaks become one blank; images, the author's markup and
table cells contribute nothing.
-/
def textContent : Node → String
  | .plain kind children =>
    match kind with
    | .text value => value ++ textOfAll children
    | .code literal _ _ => literal ++ textOfAll children
    | .softBreak | .lineBreak => " " ++ textOfAll children
    | .image .. | .html _ => ""
    | _ => textOfAll children
  | .table children _ _ => textOfAll children

/-- The texts of a list of nodes, one after another. -/
def textOfAll : List Node → String
  | [] => ""
  | node :: rest => textContent node ++ textOfAll rest

end

end Node

end Docpress
