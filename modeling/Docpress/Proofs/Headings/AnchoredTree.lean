import Docpress.Proofs.Headings.Anchors

/-!
Document trees whose headings carry their identifiers. A tree gets its identifiers once, in document
order and before anything is rendered. After that a rendering needs no list of identifiers: each
renderer is given the part of the tree that it renders, whichever renderers there are.
-/

namespace Docpress

/-- A document tree in which every node stands with the identifier that it has as a heading. -/
inductive AnchoredNode where
  | plain (anchor : Option String) (kind : Kind) (children : List AnchoredNode)
  | table (children headers : List AnchoredNode) (rows : List (List AnchoredNode))

namespace AnchoredNode

mutual

/-- The tree without identifiers. -/
def node : AnchoredNode → Node
  | .plain _ kind children => .plain kind (nodes children)
  | .table children headers rows => .table (nodes children) (nodes headers) (rowNodes rows)

/-- The trees without identifiers. -/
def nodes : List AnchoredNode → List Node
  | [] => []
  | tree :: rest => node tree :: nodes rest

/-- The rows of cells without identifiers. -/
def rowNodes : List (List AnchoredNode) → List (List Node)
  | [] => []
  | row :: rest => nodes row :: rowNodes rest

end

mutual

/-- The nodes of a tree in document order, each with its identifier. -/
def entries : AnchoredNode → List (Option String × Node)
  | .plain anchor kind children => (anchor, .plain kind (nodes children)) :: entriesAll children
  | .table children headers rows =>
    (none, .table (nodes children) (nodes headers) (rowNodes rows))
      :: (entriesAll children ++ (entriesAll headers ++ entriesRows rows))

/-- The nodes of trees in document order, each with its identifier. -/
def entriesAll : List AnchoredNode → List (Option String × Node)
  | [] => []
  | tree :: rest => entries tree ++ entriesAll rest

/-- The nodes of rows of cells in document order, each with its identifier. -/
def entriesRows : List (List AnchoredNode) → List (Option String × Node)
  | [] => []
  | row :: rest => entriesAll row ++ entriesRows rest

end

/-- The identifiers of the headings below the root. -/
def nestedIds (tree : AnchoredNode) : List String :=
  tree.entries.tail.filterMap Prod.fst

/-- The list entry of a node that is a heading, under the identifier that a renderer is told for it. -/
def headerOfEntry (entry : Option String × Node) : Option Header :=
  entry.2.headingLevel?.map fun level =>
    Header.ofHeading (level, entry.2.textContent)
      (Props.headingId { node := entry.2, children := [], anchor := entry.1 })

/-- The headings of a tree in document order. -/
def headers (tree : AnchoredNode) : List Header :=
  tree.entries.filterMap headerOfEntry

mutual

/-- Renders a node after its children and its cells. -/
def render (registry : Registry) (cx : RenderContext) (tree : AnchoredNode)
    : Except RenderError Markup :=
  match tree with
  | .plain anchor kind children => do
    let rendered ← renderAll registry cx children
    dispatch registry cx
      {
        node := node (.plain anchor kind children)
        children := rendered
        anchor := anchor
        nestedIds := nestedIds (.plain anchor kind children)
      }
  | .table children headers rows => do
    let rendered ← renderAll registry cx children
    let renderedHeaders ← renderAll registry cx headers
    let renderedRows ← renderRows registry cx rows
    dispatch registry cx
      {
        node := node (.table children headers rows)
        children := rendered
        table := some ⟨renderedHeaders, renderedRows⟩
        nestedIds := nestedIds (.table children headers rows)
      }

/-- Renders trees in order, up to the first that fails. -/
def renderAll (registry : Registry) (cx : RenderContext) (trees : List AnchoredNode)
    : Except RenderError (List Markup) :=
  match trees with
  | [] => .ok []
  | tree :: rest => do
    let markup ← render registry cx tree
    let markups ← renderAll registry cx rest
    return markup :: markups

/-- Renders rows of cells in order, up to the first cell that fails. -/
def renderRows (registry : Registry) (cx : RenderContext) (rows : List (List AnchoredNode))
    : Except RenderError (List (List Markup)) :=
  match rows with
  | [] => .ok []
  | row :: rest => do
    let markups ← renderAll registry cx row
    let others ← renderRows registry cx rest
    return markups :: others

end

end AnchoredNode

namespace Node

mutual

/-- The tree with identifiers that its headings take off a list, and those that are left. -/
def anchored (node : Node) (ids : List String) : AnchoredNode × List String :=
  match node with
  | .plain kind children =>
    let (anchor, ids) := takeAnchor kind ids
    let (children, rest) := anchoredAll children ids
    (.plain anchor kind children, rest)
  | .table children headers rows =>
    let (children, rest) := anchoredAll children ids
    let (headers, rest) := anchoredAll headers rest
    let (rows, rest) := anchoredRows rows rest
    (.table children headers rows, rest)

/-- The trees with the identifiers that they take off a list one after the other. -/
def anchoredAll (nodes : List Node) (ids : List String) : List AnchoredNode × List String :=
  match nodes with
  | [] => ([], ids)
  | node :: rest =>
    let (tree, ids) := anchored node ids
    let (trees, ids) := anchoredAll rest ids
    (tree :: trees, ids)

/-- The rows of cells with the identifiers that they take off a list one after the other. -/
def anchoredRows (rows : List (List Node)) (ids : List String)
    : List (List AnchoredNode) × List String :=
  match rows with
  | [] => ([], ids)
  | row :: rest =>
    let (trees, ids) := anchoredAll row ids
    let (rows, ids) := anchoredRows rest ids
    (trees :: rows, ids)

end

/-- A tree with the identifiers that its document gives its headings. -/
def withHeadingIds (options : RenderOptions) (tree : Node) : AnchoredNode :=
  (tree.anchored (headingIds options tree)).1

end Node

namespace AnchoredNode

open Fallible
open Node (anchored anchoredAll anchoredRows headingCount)

-----------------------------------------------------------------------------------------
-- Identifiers do not change the tree
-----------------------------------------------------------------------------------------

mutual

/-- The anchors can be taken off again, by induction on the node. -/
theorem node_anchored (node : Node) (ids : List String) : (node.anchored ids).1.node = node := by
  cases node with
  | plain kind children =>
      simp only [anchored, AnchoredNode.node, nodes_anchoredAll children]
  | table children headers rows =>
      simp only [anchored, AnchoredNode.node, nodes_anchoredAll children,
        nodes_anchoredAll headers, rowNodes_anchoredRows rows]

/-- The anchors can be taken off nodes in a row. -/
theorem nodes_anchoredAll (nodes : List Node) (ids : List String)
    : AnchoredNode.nodes (anchoredAll nodes ids).1 = nodes := by
  cases nodes with
  | nil => rfl
  | cons node rest =>
      simp only [anchoredAll, AnchoredNode.nodes, node_anchored node, nodes_anchoredAll rest]

/-- The anchors can be taken off the rows of a table. -/
theorem rowNodes_anchoredRows (rows : List (List Node)) (ids : List String)
    : rowNodes (anchoredRows rows ids).1 = rows := by
  cases rows with
  | nil => rfl
  | cons row rest =>
      simp only [anchoredRows, rowNodes, nodes_anchoredAll row, rowNodes_anchoredRows rest]

end

-----------------------------------------------------------------------------------------
-- Identifiers are taken in document order
-----------------------------------------------------------------------------------------

mutual

/-- A node takes an identifier for each of its headings, by induction on the node. -/
theorem anchored_rest (node : Node) (ids : List String)
    : (node.anchored ids).2 = ids.drop (headingCount node.preorder) := by
  cases node with
  | plain kind children =>
      simp only [anchored, anchoredAll_rest children, takeAnchor_snd kind children,
        List.drop_drop, Node.preorder]
      rw [Node.headingCount_cons _ (Node.preorderAll children)]
  | table children headers rows =>
      simp only [anchored, anchoredAll_rest children, anchoredAll_rest headers,
        anchoredRows_rest rows, List.drop_drop, Node.preorder, Node.headingCount_table,
        Node.headingCount_append, Nat.add_assoc]

/-- Nodes in a row take an identifier for each of their headings. -/
theorem anchoredAll_rest (nodes : List Node) (ids : List String)
    : (anchoredAll nodes ids).2 = ids.drop (headingCount (Node.preorderAll nodes)) := by
  cases nodes with
  | nil => rfl
  | cons node rest =>
      simp only [anchoredAll, anchored_rest node, anchoredAll_rest rest, List.drop_drop,
        Node.preorderAll, Node.headingCount_append]

/-- The rows of a table take an identifier for each of their headings. -/
theorem anchoredRows_rest (rows : List (List Node)) (ids : List String)
    : (anchoredRows rows ids).2 = ids.drop (headingCount (Node.preorderRows rows)) := by
  cases rows with
  | nil => rfl
  | cons row rest =>
      simp only [anchoredRows, anchoredAll_rest row, anchoredRows_rest rest, List.drop_drop,
        Node.preorderRows, Node.headingCount_append]

end

/-- The listed nodes, each with the identifier that it takes off a list as a heading. -/
def takeAnchors : List Node → List String → List (Option String × Node)
  | [], _ => []
  | node :: rest, ids => (node.anchor? ids, node) :: takeAnchors rest (ids.drop (headingCount [node]))

/-- Of nodes in two lists the second take what the first leave, by induction on the first list. -/
theorem takeAnchors_append (left right : List Node) (ids : List String)
    : takeAnchors (left ++ right) ids
      = takeAnchors left ids ++ takeAnchors right (ids.drop (headingCount left)) := by
  induction left generalizing ids with
  | nil => rfl
  | cons node rest ih =>
      rw [List.cons_append, takeAnchors, ih, takeAnchors, List.drop_drop, List.cons_append,
        Node.headingCount_cons node rest]

mutual

/-- The nodes of a tree take their identifiers in document order, by induction on the tree. -/
theorem entries_anchored (node : Node) (ids : List String)
    : (node.anchored ids).1.entries = takeAnchors node.preorder ids := by
  cases node with
  | plain kind children =>
      simp only [anchored, entries, nodes_anchoredAll children, entriesAll_anchoredAll children,
        takeAnchor_snd kind children]
      rfl
  | table children headers rows =>
      have none : headingCount [.table children headers rows] = 0 := rfl
      simp only [anchored, entries, nodes_anchoredAll children, nodes_anchoredAll headers,
        rowNodes_anchoredRows rows, entriesAll_anchoredAll children,
        entriesAll_anchoredAll headers, entriesRows_anchoredRows rows, anchoredAll_rest,
        Node.preorder, takeAnchors, takeAnchors_append, none, List.drop_zero]
      rfl

/-- The nodes of anchored nodes in a row, with the anchors that they take. -/
theorem entriesAll_anchoredAll (nodes : List Node) (ids : List String)
    : entriesAll (anchoredAll nodes ids).1 = takeAnchors (Node.preorderAll nodes) ids := by
  cases nodes with
  | nil => rfl
  | cons node rest =>
      simp only [anchoredAll, entriesAll, entries_anchored node, entriesAll_anchoredAll rest,
        anchored_rest, Node.preorderAll, takeAnchors_append]

/-- The nodes of anchored rows, with the anchors that they take. -/
theorem entriesRows_anchoredRows (rows : List (List Node)) (ids : List String)
    : entriesRows (anchoredRows rows ids).1 = takeAnchors (Node.preorderRows rows) ids := by
  cases rows with
  | nil => rfl
  | cons row rest =>
      simp only [anchoredRows, entriesRows, entriesAll_anchoredAll row,
        entriesRows_anchoredRows rest, anchoredAll_rest, Node.preorderRows, takeAnchors_append]

end

/-- One identifier is taken for each heading, by induction on the nodes. -/
theorem ids_takeAnchors (nodes : List Node) (ids : List String)
    : (takeAnchors nodes ids).filterMap Prod.fst = ids.take (headingCount nodes) := by
  induction nodes generalizing ids with
  | nil => simp [takeAnchors, headingCount]
  | cons node rest ih =>
      rw [takeAnchors, List.filterMap_cons, ih, Node.headingCount_cons node rest]
      cases level : node.headingLevel? with
      | none =>
          have none : node.anchor? ids = none := by
            cases node with
            | table children headers rows => rfl
            | plain kind children =>
                cases kind with
                | heading level => cases level
                | _ => rfl
          have count : headingCount [node] = 0 := by simp [headingCount, level]
          simp only [none, count, List.drop_zero, Nat.zero_add]
      | some level =>
          have count : headingCount [node] = 1 := by simp [headingCount, level]
          cases node with
          | table children headers rows => cases level
          | plain kind children =>
              cases kind <;> cases level
              -- A heading gets none of no identifiers, and then none is taken either.
              cases ids with
              | nil => simp [Node.anchor?, takeAnchor]
              | cons id ids =>
                  simp [Node.anchor?, takeAnchor, count, Nat.add_comm 1]

/-- The identifiers that were taken are those in front of the ones that are left. -/
theorem takenIds_drop (ids : List String) (count : Nat)
    : takenIds ids (ids.drop count) = ids.take count := by
  rw [takenIds, List.length_drop]
  rcases Nat.le_total count ids.length with enough | short
  · rw [Nat.sub_sub_self enough]
  · rw [Nat.sub_eq_zero_of_le short, Nat.sub_zero, List.take_length, List.take_of_length_le short]

/-- The identifiers below a node are those that its parts take. -/
theorem nestedIds_anchored (node : Node) (ids : List String)
    : (node.anchored ids).1.nestedIds
      = takenIds (ids.drop (headingCount [node])) (node.anchored ids).2 := by
  have below := Node.preorder_eq_cons_nested node
  have count := Node.headingCount_cons node (Node.preorderAll node.nested)
  rw [nestedIds, entries_anchored, anchored_rest, below, takeAnchors, List.tail_cons,
    ids_takeAnchors, count, ← List.drop_drop, takenIds_drop]

-----------------------------------------------------------------------------------------
-- The rendering of a tree with its identifiers
-----------------------------------------------------------------------------------------

section

variable (registry : Registry) (cx : RenderContext)

mutual

/-- A rendering that hands on a list of identifiers gives every renderer what it finds in the tree
that carries them, by induction on the tree.
-/
theorem renderNode_eq_render (node : Node) (ids : List String)
    : renderNode registry cx node ids
      = ((node.anchored ids).1.render registry cx).map (·, (node.anchored ids).2) := by
  have same := node_anchored node ids
  have nested := nestedIds_anchored node ids
  cases node with
  | plain kind children =>
      rw [← takeAnchor_snd kind children] at nested
      simp only [anchored] at same nested ⊢
      simp only [renderNode, render, renderList_eq_renderAll children, map_bind, bind_map, same,
        nested]
      rfl
  | table children headers rows =>
      rw [show headingCount [.table children headers rows] = 0 from rfl, List.drop_zero] at nested
      simp only [anchored] at same nested ⊢
      simp only [renderNode, render, renderList_eq_renderAll children,
        renderList_eq_renderAll headers, renderRows_eq_renderRows rows, map_bind, bind_map, same,
        nested]
      rfl

/-- Nodes in a row render as they do with their anchors written beside them. -/
theorem renderList_eq_renderAll (nodes : List Node) (ids : List String)
    : renderList registry cx nodes ids
      = (renderAll registry cx (anchoredAll nodes ids).1).map (·, (anchoredAll nodes ids).2) := by
  cases nodes with
  | nil => rfl
  | cons node rest =>
      simp only [renderList, anchoredAll, renderAll, renderNode_eq_render node,
        renderList_eq_renderAll rest, map_bind, bind_map]
      rfl

/-- The rows of a table render as they do with their anchors written beside them. -/
theorem renderRows_eq_renderRows (rows : List (List Node)) (ids : List String)
    : Docpress.renderRows registry cx rows ids
      = (renderRows registry cx (anchoredRows rows ids).1).map (·, (anchoredRows rows ids).2) := by
  cases rows with
  | nil => rfl
  | cons row rest =>
      simp only [Docpress.renderRows, anchoredRows, renderRows, renderList_eq_renderAll row,
        renderRows_eq_renderRows rest, map_bind, bind_map]
      rfl

end

end

/-- Each heading takes the identifier that is listed for it, by induction on the nodes. -/
theorem headers_takeAnchors (nodes : List Node) (ids : List String)
    (enough : headingCount nodes ≤ ids.length)
    : (takeAnchors nodes ids).filterMap headerOfEntry
      = List.zipWith Header.ofHeading (Node.headingsOf nodes) ids := by
  induction nodes generalizing ids with
  | nil => rfl
  | cons node rest ih =>
      rw [Node.headingCount_cons node rest] at enough
      have later := ih (ids.drop (headingCount [node]))
        (by rw [List.length_drop]; exact Nat.le_sub_of_add_le' enough)
      rw [takeAnchors, List.filterMap_cons, later]
      cases level : node.headingLevel? with
      | none =>
          have count : headingCount [node] = 0 := by simp [headingCount, level]
          simp only [headerOfEntry, Node.headingsOf, List.filterMap_cons, level, Option.map_none,
            count, List.drop_zero]
      | some level =>
          cases node with
          | table children headers rows => cases level
          | plain kind children =>
              cases kind <;> cases level
              cases ids with
              | nil => exact absurd enough (by simp [headingCount, Node.headingLevel?])
              | cons id ids => rfl

/-- The listed headings of a document are those of its tree, under the identifiers that the tree
carries.
-/
theorem headers_withHeadingIds (options : RenderOptions) (tree : Node)
    : (tree.withHeadingIds options).headers = Docpress.headers options tree := by
  have listed : tree.headings = Node.headingsOf tree.preorder := by
    rw [Node.headings, Node.descendants_eq_preorder, Node.headingsOf]
  have enough : headingCount tree.preorder ≤ (headingIds options tree).length := by
    rw [length_headingIds, listed, Node.length_headingsOf]
  rw [headers, Node.withHeadingIds, entries_anchored, headers_takeAnchors _ _ enough, ← listed]
  rfl

end AnchoredNode

/-- A document comes from the tree that carries the identifiers. -/
theorem render_of_renderTree {cx : RenderContext} {overrides : Option Overrides} {tree : Node}
    {document : RenderedDocument} (success : renderTree cx overrides tree = .ok document)
    : document.headers = headers cx.options tree
      ∧ document.title = title (headers cx.options tree)
      ∧ (tree.withHeadingIds cx.options).render (.build overrides) cx = .ok document.tree := by
  obtain ⟨_, out, rest, here, rfl⟩ := renderTree_eq_ok_iff.mp success
  rw [AnchoredNode.renderNode_eq_render] at here
  obtain ⟨markup, made, same⟩ := Fallible.map_eq_ok_iff.mp here
  cases same
  exact ⟨rfl, rfl, made⟩

end Docpress
