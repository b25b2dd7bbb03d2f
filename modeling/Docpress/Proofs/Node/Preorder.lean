import Docpress.Node

/-!
Document order by structural recursion, and walks in that order in which every node inherits a value
from the node above it. The stack walk of `descendants` lists the same nodes.
-/

namespace Docpress.Node

mutual

/-- The nodes of a tree in document order: a node, then its children, then its cells row by row. -/
def preorder : Node → List Node
  | .plain kind children => .plain kind children :: preorderAll children
  | .table children headers rows =>
    .table children headers rows
      :: (preorderAll children ++ (preorderAll headers ++ preorderRows rows))

/-- The nodes of a list of trees in document order. -/
def preorderAll : List Node → List Node
  | [] => []
  | node :: rest => preorder node ++ preorderAll rest

/-- The nodes of rows of trees in document order. -/
def preorderRows : List (List Node) → List Node
  | [] => []
  | row :: rest => preorderAll row ++ preorderRows rest

end

/-- The nodes of trees in a row are those of each tree, by induction on the row. -/
theorem preorderAll_eq_flatMap (nodes : List Node) : preorderAll nodes = nodes.flatMap preorder := by
  induction nodes with
  | nil => rfl
  | cons node rest ih => simp only [preorderAll, List.flatMap_cons, ih]

/-- The nodes of two rows of trees are those of the one and then those of the other. -/
theorem preorderAll_append (left right : List Node)
    : preorderAll (left ++ right) = preorderAll left ++ preorderAll right := by
  simp only [preorderAll_eq_flatMap, List.flatMap_append]

/-- A node of trees in a row is a node of one of them. -/
theorem mem_preorderAll {node : Node} {nodes : List Node}
    : node ∈ preorderAll nodes ↔ ∃ root ∈ nodes, node ∈ root.preorder := by
  rw [preorderAll_eq_flatMap, List.mem_flatMap]

/-- The nodes of rows of trees are those of the rows put together, by induction on the rows. -/
theorem preorderRows_eq_flatten (rows : List (List Node))
    : preorderRows rows = preorderAll rows.flatten := by
  induction rows with
  | nil => rfl
  | cons row rest ih => simp only [preorderRows, List.flatten_cons, preorderAll_append, ih]

/-- A tree lists its root and then everything that is nested in it. -/
theorem preorder_eq_cons_nested (node : Node)
    : node.preorder = node :: preorderAll node.nested := by
  cases node with
  | plain kind children => rfl
  | table children headers rows =>
      simp only [preorder, nested, preorderAll_append, preorderRows_eq_flatten,
        List.append_assoc]

/-- The walk along a stack follows the recursion, by induction on the walk's own steps. -/
theorem walk_eq_preorderAll (stack : List Node) : walk stack = preorderAll stack := by
  induction stack using walk.induct with
  | case1 => simp only [walk, preorderAll]
  | case2 node rest ih =>
      rw [walk, ih, preorderAll_append, preorderAll, preorder_eq_cons_nested,
        List.cons_append]

/-- The walk with a stack comes by the nodes of a tree in document order. -/
theorem descendants_eq_preorder (node : Node) : node.descendants = node.preorder := by
  rw [descendants, walk_eq_preorderAll, preorderAll, preorderAll, List.append_nil]

/-- How a value goes down a tree: what a node hands to its children, and what to its cells. -/
structure Inheritance (α : Type) where
  toChildren : α → Node → α
  toCells : α → Node → α

variable {α : Type}

mutual

/-- The nodes of a tree in document order, each with the value that it inherits. -/
def inherit (rule : Inheritance α) (value : α) : Node → List (α × Node)
  | .plain kind children =>
    (value, .plain kind children)
      :: inheritAll rule (rule.toChildren value (.plain kind children)) children
  | .table children headers rows =>
    let table : Node := .table children headers rows
    (value, table)
      :: (inheritAll rule (rule.toChildren value table) children
        ++ (inheritAll rule (rule.toCells value table) headers
          ++ inheritRows rule (rule.toCells value table) rows))

/-- The nodes of a list of trees, the roots of which inherit one value. -/
def inheritAll (rule : Inheritance α) (value : α) : List Node → List (α × Node)
  | [] => []
  | node :: rest => inherit rule value node ++ inheritAll rule value rest

/-- The nodes of rows of trees, the roots of which inherit one value. -/
def inheritRows (rule : Inheritance α) (value : α) : List (List Node) → List (α × Node)
  | [] => []
  | row :: rest => inheritAll rule value row ++ inheritRows rule value rest

end

section

variable (rule : Inheritance α)

/-- What two rows of trees inherit is what the one inherits and then what the other does. -/
theorem inheritAll_append (value : α) (left right : List Node)
    : inheritAll rule value (left ++ right)
      = inheritAll rule value left ++ inheritAll rule value right := by
  induction left with
  | nil => rfl
  | cons node rest ih => simp only [List.cons_append, inheritAll, ih, List.append_assoc]

/-- What rows of trees inherit is what the rows put together do, by induction on the rows. -/
theorem inheritRows_eq_flatten (value : α) (rows : List (List Node))
    : inheritRows rule value rows = inheritAll rule value rows.flatten := by
  induction rows with
  | nil => rfl
  | cons row rest ih => simp only [inheritRows, List.flatten_cons, inheritAll_append, ih]

/-- What trees in a row inherit is what each tree does, by induction on the row. -/
theorem inheritAll_eq_flatMap (value : α) (nodes : List Node)
    : inheritAll rule value nodes = nodes.flatMap (inherit rule value) := by
  induction nodes with
  | nil => rfl
  | cons node rest ih => simp only [inheritAll, List.flatMap_cons, ih]

/-- An entry of trees in a row is an entry of one of them. -/
theorem mem_inheritAll {value : α} {nodes : List Node} {entry : α × Node}
    : entry ∈ inheritAll rule value nodes ↔ ∃ node ∈ nodes, entry ∈ inherit rule value node := by
  rw [inheritAll_eq_flatMap, List.mem_flatMap]

/-- The root of a tree comes first, with the value it is given. -/
theorem mem_inherit_self (value : α) (node : Node) : (value, node) ∈ inherit rule value node := by
  cases node <;> simp only [inherit, List.mem_cons, true_or]

mutual

/-- Inherited values do not change which nodes are listed, nor in which order. -/
theorem map_snd_inherit (value : α) (node : Node)
    : (inherit rule value node).map Prod.snd = node.preorder := by
  cases node with
  | plain kind children =>
      simp only [inherit, preorder, List.map_cons, map_snd_inheritAll _ children]
  | table children headers rows =>
      simp only [inherit, preorder, List.map_cons, List.map_append,
        map_snd_inheritAll _ children, map_snd_inheritAll _ headers, map_snd_inheritRows _ rows]

/-- Beside what they inherit, the nodes of trees in a row are their nodes in document order. -/
theorem map_snd_inheritAll (value : α) (nodes : List Node)
    : (inheritAll rule value nodes).map Prod.snd = preorderAll nodes := by
  cases nodes with
  | nil => rfl
  | cons node rest =>
      simp only [inheritAll, preorderAll, List.map_append, map_snd_inherit _ node,
        map_snd_inheritAll _ rest]

/-- Beside what they inherit, the nodes of rows of trees are their nodes in document order. -/
theorem map_snd_inheritRows (value : α) (rows : List (List Node))
    : (inheritRows rule value rows).map Prod.snd = preorderRows rows := by
  cases rows with
  | nil => rfl
  | cons row rest =>
      simp only [inheritRows, preorderRows, List.map_append, map_snd_inheritAll _ row,
        map_snd_inheritRows _ rest]

end

-----------------------------------------------------------------------------------------
-- What is handed on holds everywhere below
-----------------------------------------------------------------------------------------

/-- Every node hands a property of values on, to children and cells alike. -/
structure Inheritance.Keeps (rule : Inheritance α) (good : α → Prop) : Prop where
  toChildren : ∀ value node, good value → good (rule.toChildren value node)
  toCells : ∀ value node, good value → good (rule.toCells value node)

variable {rule} {good : α → Prop}

mutual

/-- What every node hands on holds all over a tree if it holds at the root, by induction on the tree. -/
theorem Inheritance.Keeps.inherit (keeps : rule.Keeps good) {value : α} (here : good value)
    (node : Node)
    : ∀ entry ∈ Node.inherit rule value node, good entry.1 := by
  intro entry member
  cases node with
  | plain kind children =>
      rcases List.mem_cons.mp member with same | below
      · exact same ▸ here
      · exact keeps.inheritAll (keeps.toChildren _ _ here) children entry below
  | table children headers rows =>
      rcases List.mem_cons.mp member with same | below
      · exact same ▸ here
      · rcases List.mem_append.mp below with below | cells
        · exact keeps.inheritAll (keeps.toChildren _ _ here) children entry below
        · rcases List.mem_append.mp cells with heads | cells
          · exact keeps.inheritAll (keeps.toCells _ _ here) headers entry heads
          · exact keeps.inheritRows (keeps.toCells _ _ here) rows entry cells

/-- What is kept from node to node holds in all trees of a row if it holds for the row. -/
theorem Inheritance.Keeps.inheritAll (keeps : rule.Keeps good) {value : α} (here : good value)
    (nodes : List Node)
    : ∀ entry ∈ Node.inheritAll rule value nodes, good entry.1 := by
  intro entry member
  cases nodes with
  | nil => cases member
  | cons node rest =>
      rcases List.mem_append.mp member with first | later
      · exact keeps.inherit here node entry first
      · exact keeps.inheritAll here rest entry later

/-- What is kept from node to node holds in all rows of trees if it holds for the rows. -/
theorem Inheritance.Keeps.inheritRows (keeps : rule.Keeps good) {value : α} (here : good value)
    (rows : List (List Node))
    : ∀ entry ∈ Node.inheritRows rule value rows, good entry.1 := by
  intro entry member
  cases rows with
  | nil => cases member
  | cons row rest =>
      rcases List.mem_append.mp member with first | later
      · exact keeps.inheritAll here row entry first
      · exact keeps.inheritRows here rest entry later

end

end

end Docpress.Node
