import Docpress.Proofs.Rendering.Standard

/-!
Which error a rendering ends with when no renderer is overridden. Nodes are rendered after what is nested
in them, so the error is that of the first faulty node in this order; only nesting goes before.
-/

namespace Docpress

open Fallible

namespace Node

mutual

/-- The nodes of a tree in the order in which they are rendered: what its children hold, then its
header cells, then its body cells row by row, and last the node itself.
-/
def evaluationOrder : Node → List Node
  | .plain kind children => evaluationOrderAll children ++ [.plain kind children]
  | .table children headers rows =>
    evaluationOrderAll children
      ++ (evaluationOrderAll headers
        ++ (evaluationOrderRows rows ++ [.table children headers rows]))

/-- The nodes of a list of trees in the order in which they are rendered. -/
def evaluationOrderAll : List Node → List Node
  | [] => []
  | node :: rest => evaluationOrder node ++ evaluationOrderAll rest

/-- The nodes of rows of trees in the order in which they are rendered. -/
def evaluationOrderRows : List (List Node) → List Node
  | [] => []
  | row :: rest => evaluationOrderAll row ++ evaluationOrderRows rest

end

mutual

/-- Rendering comes by the same nodes as the walk in document order. -/
theorem evaluationOrder_perm (node : Node) : node.evaluationOrder.Perm node.preorder := by
  cases node with
  | plain kind children =>
      exact (List.perm_append_singleton _ _).trans ((evaluationOrderAll_perm children).cons _)
  | table children headers rows =>
      have cells := ((evaluationOrderAll_perm headers).append (evaluationOrderRows_perm rows))
      have below := (evaluationOrderAll_perm children).append cells
      simp only [evaluationOrder, preorder, ← List.append_assoc] at below ⊢
      exact (List.perm_append_singleton _ _).trans (below.cons _)

/-- The nodes of trees in a row are evaluated once each. -/
theorem evaluationOrderAll_perm (nodes : List Node)
    : (evaluationOrderAll nodes).Perm (preorderAll nodes) := by
  cases nodes with
  | nil => exact .nil
  | cons node rest => exact (evaluationOrder_perm node).append (evaluationOrderAll_perm rest)

/-- The nodes of rows of trees are evaluated once each. -/
theorem evaluationOrderRows_perm (rows : List (List Node))
    : (evaluationOrderRows rows).Perm (preorderRows rows) := by
  cases rows with
  | nil => exact .nil
  | cons row rest => exact (evaluationOrderAll_perm row).append (evaluationOrderRows_perm rest)

end

/-- The nodes that are evaluated are the tree and its descendants. -/
theorem mem_evaluationOrder {node tree : Node}
    : node ∈ tree.evaluationOrder ↔ node ∈ tree.descendants := by
  rw [descendants_eq_preorder]
  exact (evaluationOrder_perm tree).mem_iff

end Node

-----------------------------------------------------------------------------------------
-- Faults
-----------------------------------------------------------------------------------------

/-- What is wrong with a single node: code that is to be highlighted and cannot be, or under strict mode
a table with a row that is shorter or longer than its headers, of which the first one counts.
-/
inductive Fault (cx : RenderContext) : Node → RenderError → Prop where
  | noHighlighter {literal language attrs children} (on : cx.options.highlightCode = true)
    (missing : cx.highlighting = none)
    : Fault cx (.plain (.code literal language attrs) children) (.highlight .noHighlighter)
  | highlight {literal language attrs children manager error}
    (on : cx.options.highlightCode = true) (found : cx.highlighting = some manager)
    (failure : manager.highlight literal language = .error error)
    : Fault cx (.plain (.code literal language attrs) children) (.highlight error)
  | ragged {children headers before row after} (strict : cx.options.tableMode = .strict)
    (even : ∀ earlier ∈ before, earlier.length = headers.length)
    (odd : row.length ≠ headers.length)
    : Fault cx (.table children headers (before ++ row :: after))
        (.raggedTable before.length headers.length row.length)

variable {cx : RenderContext}

/-- Nothing is wrong with any of the nodes. -/
def Faultless (cx : RenderContext) (nodes : List Node) : Prop :=
  ∀ node ∈ nodes, ∀ error, ¬Fault cx node error

/-- The error is what is wrong with the first of the nodes with which anything is wrong. -/
def FirstFault (cx : RenderContext) (nodes : List Node) (error : RenderError) : Prop :=
  ∃ before node after,
    nodes = before ++ node :: after ∧ Faultless cx before ∧ Fault cx node error

/-- The error that the rendering of a single node ends with. -/
def Node.fault? (cx : RenderContext) : Node → Option RenderError
  | .plain (.code literal language _) _ => error? (Renderer.codeContent cx literal language)
  | .table _ headers rows => error? (Renderer.checkShape cx.options.tableMode ⟨headers, rows⟩)
  | _ => none

/-- The check of a table finds the first row of another length than the headers, counted from `index`.
-/
theorem firstRaggedFrom?_eq_some_iff {α : Type} {expected index : Nat} {rows : List (List α)}
    {ragged : Table.Ragged}
    : Table.firstRaggedFrom? expected index rows = some ragged
      ↔ ∃ before row after,
          rows = before ++ row :: after
          ∧ (∀ earlier ∈ before, earlier.length = expected)
          ∧ row.length ≠ expected
          ∧ ragged = ⟨index + before.length, row.length⟩ := by
  induction rows generalizing index with
  | nil => simp [Table.firstRaggedFrom?]
  | cons row rest ih =>
      rw [Table.firstRaggedFrom?]
      split
      next even =>
        rw [ih]
        constructor
        · rintro ⟨before, odd, after, rfl, evens, differs, rfl⟩
          refine ⟨row :: before, odd, after, rfl, ?_, differs, ?_⟩
          · exact List.forall_mem_cons.mpr ⟨even, evens⟩
          · rw [List.length_cons, Nat.add_right_comm, Nat.add_assoc]
        · rintro ⟨before, odd, after, split, evens, differs, rfl⟩
          cases before with
          | nil =>
              cases split
              exact absurd even differs
          | cons first before =>
              cases split
              refine ⟨before, odd, after, rfl, (List.forall_mem_cons.mp evens).2, differs, ?_⟩
              rw [List.length_cons, Nat.add_right_comm, Nat.add_assoc]
      next odd =>
        constructor
        · intro found
          cases found
          exact ⟨[], row, rest, rfl, by simp, odd, rfl⟩
        · rintro ⟨before, other, after, split, evens, differs, rfl⟩
          cases before with
          | nil =>
              cases split
              rfl
          | cons first before =>
              cases split
              exact absurd (evens row List.mem_cons_self) odd

/-- Code has no content just if it is to be highlighted and there is no highlighter, or the highlighter
fails.
-/
theorem codeContent_eq_error_iff {literal : String} {language : Option String}
    {error : RenderError}
    : Renderer.codeContent cx literal language = .error error
      ↔ cx.options.highlightCode = true
        ∧ (cx.highlighting = none ∧ error = .highlight .noHighlighter
          ∨ ∃ manager cause,
              cx.highlighting = some manager
              ∧ manager.highlight literal language = .error cause
              ∧ error = .highlight cause) := by
  unfold Renderer.codeContent
  cases cx.options.highlightCode with
  | false => simp
  | true =>
      cases cx.highlighting with
      | none => simp [eq_comm]
      | some manager =>
          cases result : manager.highlight literal language with
          | error cause => simp [result, eq_comm]
          | ok markup => simp [result]

/-- A table is refused just if it is under strict mode and has a row of another length, of which the
first counts.
-/
theorem checkShape_eq_error_iff {mode : TableMode} {headers : List Node} {rows : List (List Node)}
    {error : RenderError}
    : Renderer.checkShape mode (Table.mk headers rows) = .error error
      ↔ mode = .strict
        ∧ ∃ before row after,
            rows = before ++ row :: after
            ∧ (∀ earlier ∈ before, earlier.length = headers.length)
            ∧ row.length ≠ headers.length
            ∧ error = .raggedTable before.length headers.length row.length := by
  have search : Renderer.checkShape mode (Table.mk headers rows) = .error error
      ↔ mode = .strict
        ∧ ∃ ragged,
            Table.firstRaggedFrom? headers.length 0 rows = some ragged
            ∧ error = .raggedTable ragged.row headers.length ragged.length := by
    unfold Renderer.checkShape Table.firstRagged?
    cases mode with
    | lenient => simp
    | strict => cases Table.firstRaggedFrom? headers.length 0 rows <;> simp [eq_comm]
  rw [search]
  refine and_congr_right fun _ => ?_
  constructor
  · rintro ⟨ragged, found, rfl⟩
    obtain ⟨before, row, after, split, even, odd, rfl⟩ := firstRaggedFrom?_eq_some_iff.mp found
    exact ⟨before, row, after, split, even, odd, by rw [Nat.zero_add]⟩
  · rintro ⟨before, row, after, split, even, odd, rfl⟩
    refine ⟨⟨0 + before.length, row.length⟩, ?_, by rw [Nat.zero_add]⟩
    exact firstRaggedFrom?_eq_some_iff.mpr ⟨before, row, after, split, even, odd, rfl⟩

/-- The error of a node is what is wrong with it, by cases on the node. -/
theorem fault?_eq_some_iff {node : Node} {error : RenderError}
    : node.fault? cx = some error ↔ Fault cx node error := by
  cases node with
  | table children headers rows =>
      rw [Node.fault?, error?_eq_some_iff, checkShape_eq_error_iff]
      constructor
      · rintro ⟨strict, before, row, after, rfl, even, odd, rfl⟩
        exact .ragged strict even odd
      · intro fault
        cases fault with
        | ragged strict even odd => exact ⟨strict, _, _, _, rfl, even, odd, rfl⟩
  | plain kind children =>
      cases kind with
      | code literal language attrs =>
          rw [Node.fault?, error?_eq_some_iff, codeContent_eq_error_iff]
          constructor
          · rintro ⟨on, ⟨missing, rfl⟩ | ⟨manager, cause, found, failure, rfl⟩⟩
            · exact .noHighlighter on missing
            · exact .highlight on found failure
          · intro fault
            cases fault with
            | noHighlighter on missing => exact ⟨on, Or.inl ⟨missing, rfl⟩⟩
            | highlight on found failure => exact ⟨on, Or.inr ⟨_, _, found, failure, rfl⟩⟩
      | _ => exact iff_of_false (fun known => nomatch known) fun fault => nomatch fault

/-- A node has no error if nothing is wrong with it. -/
theorem fault?_eq_none_iff {node : Node}
    : node.fault? cx = none ↔ ∀ error, ¬Fault cx node error := by
  simp only [Option.eq_none_iff_forall_ne_some, ne_eq, fault?_eq_some_iff]

/-- The first error among nodes is that of the first one with which something is wrong. -/
theorem firstFault_iff {nodes : List Node} {error : RenderError}
    : nodes.findSome? (Node.fault? cx) = some error ↔ FirstFault cx nodes error := by
  rw [List.findSome?_eq_some_iff]
  simp only [fault?_eq_some_iff, fault?_eq_none_iff]
  constructor
  · rintro ⟨before, node, after, split, fault, sound⟩
    exact ⟨before, node, after, split, sound, fault⟩
  · rintro ⟨before, node, after, split, sound, fault⟩
    exact ⟨before, node, after, split, fault, sound⟩

/-- There is no error among nodes if nothing is wrong with any of them. -/
theorem faultless_iff {nodes : List Node}
    : nodes.findSome? (Node.fault? cx) = none ↔ Faultless cx nodes := by
  rw [List.findSome?_eq_none_iff]
  simp only [fault?_eq_none_iff]
  rfl

-----------------------------------------------------------------------------------------
-- Whole trees
-----------------------------------------------------------------------------------------

/-- Nodes in a row are rendered to as many trees, by induction on the row. -/
theorem length_renderList {registry : Registry} {nodes : List Node} {ids rest : List String}
    {outs : List Markup} (success : renderList registry cx nodes ids = .ok (outs, rest))
    : outs.length = nodes.length := by
  induction nodes generalizing ids outs with
  | nil =>
      obtain ⟨rfl, _⟩ := renderList_nil_iff.mp success
      rfl
  | cons node nodes ih =>
      obtain ⟨_, _, others, _, later, rfl⟩ := renderList_cons_iff.mp success
      rw [List.length_cons, List.length_cons, ih later]

/-- Rows are rendered to as many trees each, by induction on the rows. -/
theorem lengths_renderRows {registry : Registry} {rows : List (List Node)} {ids rest : List String}
    {outs : List (List Markup)} (success : renderRows registry cx rows ids = .ok (outs, rest))
    : outs.map List.length = rows.map List.length := by
  induction rows generalizing ids outs with
  | nil =>
      obtain ⟨rfl, _⟩ := renderRows_nil_iff.mp success
      rfl
  | cons row rows ih =>
      obtain ⟨_, _, others, here, later, rfl⟩ := renderRows_cons_iff.mp success
      rw [List.map_cons, List.map_cons, length_renderList here, ih later]

/-- A node without cells fails by its own fault once its children are rendered. -/
theorem error?_dispatch_plain (kind : Kind) (nodes : List Node) (children : List Markup)
    (anchor : Option String) (nestedIds : List String)
    : error? (dispatch .standard cx
          {
            node := .plain kind nodes
            children := children
            anchor := anchor
            nestedIds := nestedIds
          })
      = Node.fault? cx (.plain kind nodes) := by
  rw [dispatch_plain, error?_map]
  cases kind with
  | code literal language attrs => exact error?_map _ _
  | list ordered start => cases ordered <;> rfl
  | _ => rfl

/-- A table fails by its own fault once its cells are rendered, since its rows come out as long as they
are.
-/
theorem error?_dispatch_table (children : List Node) {headers : List Node}
    {rows : List (List Node)} (rendered : List Markup) (cells : Table Markup)
    (nestedIds : List String) (wide : cells.headers.length = headers.length)
    (lengths : cells.rows.map List.length = rows.map List.length)
    : error? (dispatch .standard cx
          {
            node := .table children headers rows
            children := rendered
            table := some cells
            nestedIds := nestedIds
          })
      = Node.fault? cx (.table children headers rows) := by
  rw [dispatch_table, error?_map, Node.fault?, checkShape_congr _ wide lengths]

mutual

/-- The error of a rendering is that of the first faulty node, by induction on the tree: each part
fails before the next one starts, whatever identifiers it is given.
-/
theorem error?_renderNode (node : Node) (ids : List String)
    : error? (renderNode .standard cx node ids)
      = node.evaluationOrder.findSome? (Node.fault? cx) := by
  cases node with
  | plain kind children =>
      rw [renderNode, Node.evaluationOrder, List.findSome?_append, ← error?_renderList children]
      refine error?_bind fun (rendered, rest) _ => ?_
      rw [List.findSome?_singleton, ← error?_dispatch_plain kind children rendered]
      exact error?_bind_ok _ _
  | table children headers rows =>
      rw [renderNode, Node.evaluationOrder, List.findSome?_append, List.findSome?_append,
        List.findSome?_append, ← error?_renderList children]
      refine error?_bind fun (rendered, afterChildren) _ => ?_
      rw [← error?_renderList headers]
      refine error?_bind fun (renderedHeaders, afterHeaders) heads => ?_
      rw [← error?_renderRows rows]
      refine error?_bind fun (renderedRows, rest) cells => ?_
      have wide := length_renderList heads
      have lengths := lengths_renderRows cells
      rw [List.findSome?_singleton,
        ← error?_dispatch_table children rendered ⟨renderedHeaders, renderedRows⟩
          (takenIds ids rest) wide lengths]
      exact error?_bind_ok _ _

/-- Nodes in a row fail with the first error in the order of evaluation, by induction on the row. -/
theorem error?_renderList (nodes : List Node) (ids : List String)
    : error? (renderList .standard cx nodes ids)
      = (Node.evaluationOrderAll nodes).findSome? (Node.fault? cx) := by
  cases nodes with
  | nil => rfl
  | cons node nodes =>
      rw [renderList, Node.evaluationOrderAll, List.findSome?_append, ← error?_renderNode node]
      refine error?_bind fun (markup, after) _ => ?_
      rw [← error?_renderList nodes]
      exact error?_bind_ok _ _

/-- Rows fail with the first error in the order of evaluation, by induction on the rows. -/
theorem error?_renderRows (rows : List (List Node)) (ids : List String)
    : error? (renderRows .standard cx rows ids)
      = (Node.evaluationOrderRows rows).findSome? (Node.fault? cx) := by
  cases rows with
  | nil => rfl
  | cons row rows =>
      rw [renderRows, Node.evaluationOrderRows, List.findSome?_append, ← error?_renderList row]
      refine error?_bind fun (markups, after) _ => ?_
      rw [← error?_renderRows rows]
      exact error?_bind_ok _ _

end

/-- A node fails with an error just if this is the first fault in the order of evaluation. -/
theorem renderNode_eq_error_iff {node : Node} {ids : List String} {error : RenderError}
    : renderNode .standard cx node ids = .error error
      ↔ FirstFault cx node.evaluationOrder error := by
  rw [← error?_eq_some_iff, error?_renderNode, firstFault_iff]

/-- A node is rendered just if there is no fault in it. -/
theorem exists_renderNode_eq_ok_iff {node : Node} {ids : List String}
    : (∃ result, renderNode .standard cx node ids = .ok result)
      ↔ Faultless cx node.evaluationOrder := by
  rw [← error?_eq_none_iff, error?_renderNode, faultless_iff]

/-- A first fault is a fault of one of the nodes. -/
theorem FirstFault.exists_fault {nodes : List Node} {error : RenderError}
    (first : FirstFault cx nodes error)
    : ∃ node ∈ nodes, Fault cx node error := by
  obtain ⟨before, node, after, rfl, _, fault⟩ := first
  exact ⟨node, List.mem_append_right _ List.mem_cons_self, fault⟩

/-- In strict mode every table with a row that is shorter or longer than its headers is faulty. -/
theorem exists_fault_of_ragged (strict : cx.options.tableMode = .strict)
    {children headers : List Node} {rows : List (List Node)} {row : List Node}
    (member : row ∈ rows) (odd : row.length ≠ headers.length)
    : ∃ error, Fault cx (.table children headers rows) error := by
  have some : (rows.find? fun row => row.length != headers.length).isSome := by
    rw [List.find?_isSome]
    exact ⟨row, member, bne_iff_ne.mpr odd⟩
  obtain ⟨first, found⟩ := Option.isSome_iff_exists.mp some
  obtain ⟨differs, before, after, rfl, even⟩ := List.find?_eq_some_iff_append.mp found
  refine ⟨_, .ragged strict (fun earlier listed => ?_) (bne_iff_ne.mp differs)⟩
  simpa using even earlier listed

/-- A rendering without overrides fails for nesting if the tree is too deep, whatever else is wrong with
it. Otherwise it ends with the error of the first faulty node in the order of rendering, and succeeds
exactly if there is none. So strict mode accepts no ragged table anywhere in a tree, not even where
nothing shows, and lenient mode does not refuse any.
-/
theorem render_fails_at_first_fault (cx : RenderContext) (tree : Node)
    : (∀ limit,
        renderTree cx none tree = .error (.nestingTooDeep limit)
        ↔ limit = Node.maxNesting ∧ Node.maxNesting < tree.depth)
      ∧ (tree.depth ≤ Node.maxNesting
        → (∀ error,
            renderTree cx none tree = .error error ↔ FirstFault cx tree.evaluationOrder error)
          ∧ ((∃ document, renderTree cx none tree = .ok document)
            ↔ Faultless cx tree.evaluationOrder))
      ∧ (cx.options.tableMode = .strict
        → ∀ document, renderTree cx none tree = .ok document
        → ∀ children headers rows, .table children headers rows ∈ tree.descendants
        → ∀ row ∈ rows, row.length = headers.length)
      ∧ (cx.options.tableMode = .lenient
        → ∀ row expected found,
            renderTree cx none tree ≠ .error (.raggedTable row expected found)) := by
  refine ⟨fun limit => ?_, fun shallow => ⟨fun error => ?_, ?_⟩, ?_, ?_⟩
  · rw [renderTree_eq_error_iff]
    constructor
    · rintro (⟨deep, same⟩ | ⟨_, failure⟩)
      · cases same
        exact ⟨rfl, deep⟩
      · -- Nesting is checked before anything is rendered, and is no fault of a single node.
        obtain ⟨_, _, fault⟩ := (renderNode_eq_error_iff.mp failure).exists_fault
        cases fault
    · rintro ⟨rfl, deep⟩
      exact Or.inl ⟨deep, rfl⟩
  · rw [renderTree_eq_error_iff, ← renderNode_eq_error_iff]
    constructor
    · rintro (⟨deep, _⟩ | ⟨_, failure⟩)
      · exact absurd deep (Nat.not_lt.mpr shallow)
      · exact failure
    · exact fun failure => Or.inr ⟨shallow, failure⟩
  · rw [← exists_renderNode_eq_ok_iff]
    constructor
    · rintro ⟨document, success⟩
      obtain ⟨_, out, rest, here, _⟩ := renderTree_eq_ok_iff.mp success
      exact ⟨(out, rest), here⟩
    · rintro ⟨⟨out, rest⟩, here⟩
      exact ⟨_, renderTree_eq_ok_iff.mpr ⟨shallow, out, rest, here, rfl⟩⟩
  · intro strict document success children headers rows member row listed
    obtain ⟨_, out, rest, here, _⟩ := renderTree_eq_ok_iff.mp success
    have faultless := exists_renderNode_eq_ok_iff.mp ⟨_, here⟩
    refine Classical.byContradiction fun odd => ?_
    obtain ⟨error, fault⟩ := exists_fault_of_ragged strict listed odd
    exact faultless _ (Node.mem_evaluationOrder.mpr member) error fault
  · intro lenient row expected found failure
    rcases renderTree_eq_error_iff.mp failure with ⟨_, same⟩ | ⟨_, failure⟩
    · cases same
    · obtain ⟨_, _, fault⟩ := (renderNode_eq_error_iff.mp failure).exists_fault
      cases fault with
      | ragged strict => exact absurd (lenient.symm.trans strict) TableMode.noConfusion

/-- A ragged table where nothing shows, below a text, and after it code without a highlighter. -/
def faultySample : Node :=
  let cell : Node := .leaf .tableCell
  .plain .document
    [.plain (.text "t") [.table [] [cell, cell] [[cell, cell], [cell]]], .code "x"]

/-- The table is refused although it does not show, and before the code that cannot be highlighted. -/
theorem first_fault_of_faultySample
    : renderTree ⟨{ tableMode := .strict }, none⟩ none faultySample
      = .error (.raggedTable 1 2 1) := by
  obtain ⟨_, outcome, _⟩ :=
    render_fails_at_first_fault ⟨{ tableMode := .strict }, none⟩ faultySample
  have shallow : faultySample.depth ≤ Node.maxNesting := by decide +kernel
  refine ((outcome shallow).1 _).mpr ⟨List.replicate 5 (.leaf .tableCell), _, _, rfl, ?_, ?_⟩
  · intro node member error fault
    rw [List.eq_of_mem_replicate member] at fault
    cases fault
  · exact @Fault.ragged _ _ _ [[.leaf .tableCell, .leaf .tableCell]] _ _ rfl (by simp) (by simp)

end Docpress
