import Docpress.Proofs.Fallible
import Docpress.Proofs.Node.Preorder
import Docpress.Render.Tree

/-!
What a rendering of a tree consists of, for any renderers: the renderings of its parts, each of which
takes the identifiers of its own headings off the list, and one dispatch for each node.
-/

namespace Docpress

open Fallible

variable {registry : Registry} {cx : RenderContext}

-----------------------------------------------------------------------------------------
-- A successful rendering, part by part
-----------------------------------------------------------------------------------------

/-- Rendering a node without cells: its children first, with the identifiers that it leaves, and then
itself.
-/
theorem renderNode_plain_iff {kind : Kind} {children : List Node} {ids rest : List String}
    {out : Markup}
    : renderNode registry cx (.plain kind children) ids = .ok (out, rest)
      ↔ ∃ rendered,
          renderList registry cx children (takeAnchor kind ids).2 = .ok (rendered, rest)
          ∧ dispatch registry cx
              {
                node := .plain kind children
                children := rendered
                anchor := (takeAnchor kind ids).1
                nestedIds := takenIds (takeAnchor kind ids).2 rest
              }
            = .ok out := by
  rw [renderNode]
  simp only [bind_eq_ok_iff]
  constructor
  · rintro ⟨⟨rendered, after⟩, below, markup, here, same⟩
    cases same
    exact ⟨rendered, below, here⟩
  · rintro ⟨rendered, below, here⟩
    exact ⟨(rendered, rest), below, out, here, rfl⟩

/-- Rendering a table: its children, its headers and its rows one after another, and then the table
itself.
-/
theorem renderNode_table_iff {children headers : List Node} {rows : List (List Node)}
    {ids rest : List String} {out : Markup}
    : renderNode registry cx (.table children headers rows) ids = .ok (out, rest)
      ↔ ∃ rendered afterChildren renderedHeaders afterHeaders renderedRows,
          renderList registry cx children ids = .ok (rendered, afterChildren)
          ∧ renderList registry cx headers afterChildren = .ok (renderedHeaders, afterHeaders)
          ∧ renderRows registry cx rows afterHeaders = .ok (renderedRows, rest)
          ∧ dispatch registry cx
              {
                node := .table children headers rows
                children := rendered
                table := some ⟨renderedHeaders, renderedRows⟩
                nestedIds := takenIds ids rest
              }
            = .ok out := by
  rw [renderNode]
  simp only [bind_eq_ok_iff]
  constructor
  · rintro ⟨⟨rendered, ids₁⟩, below, ⟨headersOut, ids₂⟩, heads, ⟨rowsOut, ids₃⟩, cells,
      markup, here, same⟩
    cases same
    exact ⟨rendered, ids₁, headersOut, ids₂, rowsOut, below, heads, cells, here⟩
  · rintro ⟨rendered, ids₁, headersOut, ids₂, rowsOut, below, heads, cells, here⟩
    exact ⟨(rendered, ids₁), below, (headersOut, ids₂), heads, (rowsOut, rest), cells, out,
      here, rfl⟩

/-- No nodes are rendered to nothing, and no identifiers are taken. -/
theorem renderList_nil_iff {ids rest : List String} {outs : List Markup}
    : renderList registry cx [] ids = .ok (outs, rest) ↔ outs = [] ∧ rest = ids := by
  rw [renderList, Except.ok.injEq, Prod.mk.injEq]
  exact and_congr eq_comm eq_comm

/-- Rendering nodes in a row: the first one, and then the others with the identifiers that it leaves. -/
theorem renderList_cons_iff {node : Node} {nodes : List Node} {ids rest : List String}
    {outs : List Markup}
    : renderList registry cx (node :: nodes) ids = .ok (outs, rest)
      ↔ ∃ out after others,
          renderNode registry cx node ids = .ok (out, after)
          ∧ renderList registry cx nodes after = .ok (others, rest)
          ∧ outs = out :: others := by
  rw [renderList]
  simp only [bind_eq_ok_iff]
  constructor
  · rintro ⟨⟨out, after⟩, here, ⟨others, rest⟩, later, same⟩
    cases same
    exact ⟨out, after, others, here, later, rfl⟩
  · rintro ⟨out, after, others, here, later, rfl⟩
    exact ⟨(out, after), here, (others, rest), later, rfl⟩

/-- No rows are rendered to nothing, and no identifiers are taken. -/
theorem renderRows_nil_iff {ids rest : List String} {outs : List (List Markup)}
    : renderRows registry cx [] ids = .ok (outs, rest) ↔ outs = [] ∧ rest = ids := by
  rw [renderRows, Except.ok.injEq, Prod.mk.injEq]
  exact and_congr eq_comm eq_comm

/-- Rendering rows: the first one, and then the others with the identifiers that it leaves. -/
theorem renderRows_cons_iff {row : List Node} {rows : List (List Node)}
    {ids rest : List String} {outs : List (List Markup)}
    : renderRows registry cx (row :: rows) ids = .ok (outs, rest)
      ↔ ∃ out after others,
          renderList registry cx row ids = .ok (out, after)
          ∧ renderRows registry cx rows after = .ok (others, rest)
          ∧ outs = out :: others := by
  rw [renderRows]
  simp only [bind_eq_ok_iff]
  constructor
  · rintro ⟨⟨out, after⟩, here, ⟨others, rest⟩, later, same⟩
    cases same
    exact ⟨out, after, others, here, later, rfl⟩
  · rintro ⟨out, after, others, here, later, rfl⟩
    exact ⟨(out, after), here, (others, rest), later, rfl⟩

/-- Rendering two rows of nodes: the one, and then the other with the identifiers that it leaves. -/
theorem renderList_append_iff {left right : List Node} {ids rest : List String}
    {outs : List Markup}
    : renderList registry cx (left ++ right) ids = .ok (outs, rest)
      ↔ ∃ first after second,
          renderList registry cx left ids = .ok (first, after)
          ∧ renderList registry cx right after = .ok (second, rest)
          ∧ outs = first ++ second := by
  induction left generalizing ids outs with
  | nil => simp [renderList_nil_iff]
  | cons node nodes ih =>
      rw [List.cons_append, renderList_cons_iff]
      constructor
      · rintro ⟨out, after, others, here, later, rfl⟩
        obtain ⟨first, between, second, before, behind, rfl⟩ := ih.mp later
        exact ⟨out :: first, between, second,
          renderList_cons_iff.mpr ⟨out, after, first, here, before, rfl⟩, behind, rfl⟩
      · rintro ⟨_, between, second, before, behind, rfl⟩
        obtain ⟨out, after, first, here, later, rfl⟩ := renderList_cons_iff.mp before
        exact ⟨out, after, first ++ second, here, ih.mpr ⟨first, between, second, later, behind, rfl⟩,
          rfl⟩

/-- Rows are rendered like their cells in one list. -/
theorem renderList_flatten {rows : List (List Node)} {ids rest : List String}
    {outs : List (List Markup)}
    (success : renderRows registry cx rows ids = .ok (outs, rest))
    : renderList registry cx rows.flatten ids = .ok (outs.flatten, rest) := by
  induction rows generalizing ids outs with
  | nil =>
      obtain ⟨rfl, rfl⟩ := renderRows_nil_iff.mp success
      rfl
  | cons row rows ih =>
      obtain ⟨out, after, others, here, later, rfl⟩ := renderRows_cons_iff.mp success
      exact renderList_append_iff.mpr ⟨out, after, others.flatten, here, ih later, rfl⟩

/-- A tree is rendered if it is not too deep and its root is, with an identifier for each heading. -/
theorem renderTree_eq_ok_iff {overrides : Option Overrides} {tree : Node}
    {document : RenderedDocument}
    : renderTree cx overrides tree = .ok document
      ↔ tree.depth ≤ Node.maxNesting
        ∧ ∃ out rest,
            renderNode (.build overrides) cx tree (headingIds cx.options tree) = .ok (out, rest)
            ∧ document
              = ⟨out, headers cx.options tree, title (headers cx.options tree)⟩ := by
  simp only [renderTree]
  split
  next deep =>
    constructor
    · intro success
      cases success
    · rintro ⟨shallow, _⟩
      exact absurd deep (Nat.not_lt.mpr shallow)
  next shallow =>
    rw [bind_eq_ok_iff]
    constructor
    · rintro ⟨⟨out, rest⟩, here, same⟩
      cases same
      exact ⟨Nat.le_of_not_lt shallow, out, rest, here, rfl⟩
    · rintro ⟨_, out, rest, here, rfl⟩
      exact ⟨(out, rest), here, rfl⟩

/-- Rendering a tree fails if it is too deep, or if its root fails. -/
theorem renderTree_eq_error_iff {overrides : Option Overrides} {tree : Node} {error : RenderError}
    : renderTree cx overrides tree = .error error
      ↔ Node.maxNesting < tree.depth ∧ error = .nestingTooDeep Node.maxNesting
        ∨ tree.depth ≤ Node.maxNesting
          ∧ renderNode (.build overrides) cx tree (headingIds cx.options tree) = .error error := by
  simp only [renderTree]
  split
  next deep =>
    constructor
    · intro failure
      cases failure
      exact Or.inl ⟨deep, rfl⟩
    · rintro (⟨_, rfl⟩ | ⟨shallow, _⟩)
      · rfl
      · exact absurd deep (Nat.not_lt.mpr shallow)
  next shallow =>
    rw [bind_eq_error_iff]
    constructor
    · rintro (failure | ⟨_, _, done⟩)
      · exact Or.inr ⟨Nat.le_of_not_lt shallow, failure⟩
      · cases done
    · rintro (⟨deep, _⟩ | ⟨_, failure⟩)
      · exact absurd deep shallow
      · exact Or.inl failure

-----------------------------------------------------------------------------------------
-- Identifiers are taken in document order
-----------------------------------------------------------------------------------------

/-- The number of headings among nodes. -/
def Node.headingCount (nodes : List Node) : Nat :=
  nodes.countP fun node => node.headingLevel?.isSome

/-- The headings in two lists are counted apart. -/
theorem Node.headingCount_append (left right : List Node)
    : headingCount (left ++ right) = headingCount left + headingCount right :=
  List.countP_append

/-- The first node is counted apart from the others. -/
theorem Node.headingCount_cons (node : Node) (nodes : List Node)
    : headingCount (node :: nodes) = headingCount [node] + headingCount nodes :=
  headingCount_append [node] nodes

/-- A table is no heading. -/
theorem Node.headingCount_table (children headers : List Node) (rows : List (List Node))
    (nodes : List Node)
    : headingCount (.table children headers rows :: nodes) = headingCount nodes :=
  List.countP_cons_of_neg (by simp [headingLevel?])

/-- A node takes an identifier if it is a heading. -/
theorem takeAnchor_snd (kind : Kind) (children : List Node) (ids : List String)
    : (takeAnchor kind ids).2 = ids.drop (Node.headingCount [.plain kind children]) := by
  cases kind with
  | heading level =>
      cases ids with
      | nil => rfl
      | cons id rest => rfl
  | _ => rfl

mutual

/-- The rendering of a node takes one identifier for each heading in it. -/
theorem renderNode_rest {node : Node} {ids rest : List String} {out : Markup}
    (success : renderNode registry cx node ids = .ok (out, rest))
    : rest = ids.drop (Node.headingCount node.preorder) := by
  cases node with
  | plain kind children =>
      obtain ⟨rendered, below, _⟩ := renderNode_plain_iff.mp success
      rw [renderList_rest below, takeAnchor_snd kind children, List.drop_drop,
        Node.preorder, Node.headingCount_cons _ (Node.preorderAll children)]
  | table children headers rows =>
      obtain ⟨_, _, _, _, _, below, heads, cells, _⟩ := renderNode_table_iff.mp success
      rw [renderRows_rest cells, renderList_rest heads, renderList_rest below,
        List.drop_drop, List.drop_drop, Node.preorder, Node.headingCount_table,
        Node.headingCount_append, Node.headingCount_append]

/-- Nodes in a row leave the identifiers behind those of their headings, one node after another. -/
theorem renderList_rest {nodes : List Node} {ids rest : List String} {outs : List Markup}
    (success : renderList registry cx nodes ids = .ok (outs, rest))
    : rest = ids.drop (Node.headingCount (Node.preorderAll nodes)) := by
  cases nodes with
  | nil =>
      obtain ⟨_, same⟩ := renderList_nil_iff.mp success
      exact same
  | cons node nodes =>
      obtain ⟨_, _, _, here, later, _⟩ := renderList_cons_iff.mp success
      rw [renderList_rest later, renderNode_rest here, List.drop_drop, Node.preorderAll,
        Node.headingCount_append]

/-- Rows leave the identifiers behind those of their headings, one row after another. -/
theorem renderRows_rest {rows : List (List Node)} {ids rest : List String}
    {outs : List (List Markup)}
    (success : renderRows registry cx rows ids = .ok (outs, rest))
    : rest = ids.drop (Node.headingCount (Node.preorderRows rows)) := by
  cases rows with
  | nil =>
      obtain ⟨_, same⟩ := renderRows_nil_iff.mp success
      exact same
  | cons row rows =>
      obtain ⟨_, _, _, here, later, _⟩ := renderRows_cons_iff.mp success
      rw [renderRows_rest later, renderList_rest here, List.drop_drop, Node.preorderRows,
        Node.headingCount_append]

end

-----------------------------------------------------------------------------------------
-- Errors come from single nodes
-----------------------------------------------------------------------------------------

/-- Every error of a single node satisfies `P`, whatever was rendered below the node. -/
structure FaultsSatisfy (registry : Registry) (cx : RenderContext) (P : RenderError → Prop)
    : Prop where
  plain
    : ∀ {kind nodes children anchor nestedIds error},
        dispatch registry cx
            {
              node := .plain kind nodes
              children := children
              anchor := anchor
              nestedIds := nestedIds
            }
          = .error error
        → P error
  table
    : ∀ {children headers rows rendered cells nestedIds error},
        dispatch registry cx
            {
              node := .table children headers rows
              children := rendered
              table := some cells
              nestedIds := nestedIds
            }
          = .error error
        → P error

variable {P : RenderError → Prop}

mutual

/-- An error of a rendering is the error of a node, by induction on the tree. -/
theorem renderNode_error (faults : FaultsSatisfy registry cx P) {node : Node} {ids : List String}
    {error : RenderError}
    (failure : renderNode registry cx node ids = .error error)
    : P error := by
  cases node with
  | plain kind children =>
      rw [renderNode] at failure
      simp only [bind_eq_error_iff] at failure
      rcases failure with below | ⟨_, _, here | ⟨_, _, done⟩⟩
      · exact renderList_error faults below
      · exact faults.plain here
      · cases done
  | table children headers rows =>
      rw [renderNode] at failure
      simp only [bind_eq_error_iff] at failure
      rcases failure with below | ⟨_, _, heads | ⟨_, _, cells | ⟨_, _, here | ⟨_, _, done⟩⟩⟩⟩
      · exact renderList_error faults below
      · exact renderList_error faults heads
      · exact renderRows_error faults cells
      · exact faults.table here
      · cases done

/-- What holds of the faults of single nodes holds of the error with which nodes in a row fail. -/
theorem renderList_error (faults : FaultsSatisfy registry cx P) {nodes : List Node}
    {ids : List String} {error : RenderError}
    (failure : renderList registry cx nodes ids = .error error)
    : P error := by
  cases nodes with
  | nil => cases failure
  | cons node nodes =>
      rw [renderList] at failure
      simp only [bind_eq_error_iff] at failure
      rcases failure with here | ⟨_, _, later | ⟨_, _, done⟩⟩
      · exact renderNode_error faults here
      · exact renderList_error faults later
      · cases done

/-- What holds of the faults of single nodes holds of the error with which rows fail. -/
theorem renderRows_error (faults : FaultsSatisfy registry cx P) {rows : List (List Node)}
    {ids : List String} {error : RenderError}
    (failure : renderRows registry cx rows ids = .error error)
    : P error := by
  cases rows with
  | nil => cases failure
  | cons row rows =>
      rw [renderRows] at failure
      simp only [bind_eq_error_iff] at failure
      rcases failure with here | ⟨_, _, later | ⟨_, _, done⟩⟩
      · exact renderList_error faults here
      · exact renderRows_error faults later
      · cases done

end

end Docpress
