import Docpress.Proofs.Markup.Preorder
import Docpress.Proofs.Rendering.Standard

/-!
The parts of a document tree that show in standard output. Wherever a part stands, its own rendering,
under the identifiers that are left for it, is a part of the output of the tree.
-/

namespace Docpress

namespace Node

/-- A part of a tree stands where its output shows. Of the identifiers for the headings of the tree,
`left` are left for those from the part on.
-/
inductive StandsIn (part : Node) (left : List String) : Node → List String → Prop where
  | root
    : StandsIn part left part left
  | child {kind : Kind} {before after : List Node} {node : Node} {ids : List String}
    (keeps : kind.keepsChildren = true)
    (inside
      : StandsIn part left node ((takeAnchor kind ids).2.drop (headingCount (preorderAll before))))
    : StandsIn part left (.plain kind (before ++ node :: after)) ids
  | cell {children headers before after : List Node} {rows : List (List Node)} {node : Node}
    {ids : List String} (cells : headers ++ rows.flatten = before ++ node :: after)
    (inside
      : StandsIn part left node (ids.drop (headingCount (preorderAll (children ++ before)))))
    : StandsIn part left (.table children headers rows) ids

/-- A part shows in a tree if it stands there, whatever the identifiers are. -/
def ShowsIn (part root : Node) : Prop :=
  ∀ ids, ∃ left, part.StandsIn left root ids

/-- Every node shows in itself. -/
theorem ShowsIn.refl (node : Node) : node.ShowsIn node :=
  fun ids => ⟨ids, .root⟩

/-- What shows in a child shows in its parent, if this one keeps its children. The children before it
have taken their identifiers.
-/
theorem ShowsIn.child {part node : Node} {kind : Kind} {children : List Node}
    (keeps : kind.keepsChildren = true) (member : node ∈ children) (inside : part.ShowsIn node)
    : part.ShowsIn (.plain kind children) := by
  intro ids
  obtain ⟨before, after, rfl⟩ := List.append_of_mem member
  obtain ⟨left, stands⟩ := inside ((takeAnchor kind ids).2.drop (headingCount (preorderAll before)))
  exact ⟨left, .child keeps stands⟩

/-- What shows in a cell shows in its table. The cells before it have taken their identifiers. -/
theorem ShowsIn.cell {part node : Node} {children headers : List Node} {rows : List (List Node)}
    (member : node ∈ headers ++ rows.flatten) (inside : part.ShowsIn node)
    : part.ShowsIn (.table children headers rows) := by
  intro ids
  obtain ⟨before, after, cells⟩ := List.append_of_mem member
  obtain ⟨left, stands⟩ := inside (ids.drop (headingCount (preorderAll (children ++ before))))
  exact ⟨left, .cell cells stands⟩

/-- A part of a part stands in the tree, by induction on where the outer one stands. -/
theorem StandsIn.trans {part outer root : Node} {left between ids : List String}
    (inner : part.StandsIn left outer between) (stands : outer.StandsIn between root ids)
    : part.StandsIn left root ids := by
  induction stands with
  | root => exact inner
  | child keeps _ ih => exact .child keeps ih
  | cell cells _ ih => exact .cell cells ih

/-- What shows in a part shows where the part does. -/
theorem ShowsIn.trans {part outer root : Node} (inner : part.ShowsIn outer)
    (shows : outer.ShowsIn root)
    : part.ShowsIn root := by
  intro ids
  obtain ⟨between, stands⟩ := shows ids
  obtain ⟨left, inside⟩ := inner between
  exact ⟨left, inside.trans stands⟩

end Node

/-- A shell that has a place for children shows all of them. -/
theorem Shell.mem_preorder_fill {cx : RenderContext} {id : String} {kind : Kind} {shell : Shell}
    (known : ofKind cx id kind = .ok shell) (keeps : kind.keepsChildren = true) {markup : Markup}
    {children : List Markup} (member : markup ∈ Markup.preorderAll children)
    : markup ∈ (shell.fill children).preorder := by
  have element (tag : Tag) (attrs : Attributes) (lead : List Markup)
      : markup ∈ ((Shell.element tag attrs lead).fill children).preorder := by
    obtain ⟨root, listed, inside⟩ := Markup.mem_preorderAll.mp member
    refine List.mem_cons_of_mem _ (Markup.mem_preorderAll.mpr ⟨root, ?_, inside⟩)
    exact List.mem_append_right _ listed
  cases kind with
  | heading level =>
      cases known
      unfold heading
      split
      · exact element _ _ _
      · exact element _ _ _
  | document | tableCell | other tag =>
      cases known
      exact List.mem_cons_of_mem _ member
  | list ordered start =>
      cases ordered with
      | true =>
          cases known
          exact element _ _ _
      | false =>
          cases known
          exact element _ _ _
  | text value | image src alt title attrs | code literal language attrs | html markup
  | thematicBreak | softBreak | lineBreak => cases keeps
  | _ =>
      cases known
      exact element _ _ _

/-- What is in a child is in the element that wraps it. -/
theorem Markup.mem_preorder_wrap {markup child : Markup} {children : List Markup}
    (inside : markup ∈ child.preorder) (listed : child ∈ children) (name : String)
    : markup ∈ (wrap name children).preorder :=
  List.mem_cons_of_mem _ (mem_preorderAll.mpr ⟨child, listed, inside⟩)

/-- What is in a cell is in its row. -/
theorem Table.mem_preorder_rowMarkup {markup cell : Markup} {cells : List Markup}
    (inside : markup ∈ cell.preorder) (listed : cell ∈ cells) (cellName : String)
    : markup ∈ (rowMarkup cellName cells).preorder := by
  have held := Markup.mem_preorder_wrap inside (List.mem_singleton_self cell) cellName
  have member : .wrap cellName [cell] ∈ cells.map fun cell => Markup.wrap cellName [cell] :=
    List.mem_map_of_mem listed
  exact Markup.mem_preorder_wrap held member "tr"

/-- A table shows all of its cells. -/
theorem Table.mem_preorder_toMarkup {table : Table Markup} {markup : Markup}
    (member : markup ∈ Markup.preorderAll (table.headers ++ table.rows.flatten))
    : markup ∈ table.toMarkup.preorder := by
  obtain ⟨cell, listed, inside⟩ := Markup.mem_preorderAll.mp member
  rcases List.mem_append.mp listed with header | listed
  · have row := mem_preorder_rowMarkup inside header "th"
    have head := Markup.mem_preorder_wrap row (List.mem_singleton_self _) "thead"
    exact Markup.mem_preorder_wrap head List.mem_cons_self "table"
  · obtain ⟨cells, here, listed⟩ := List.mem_flatten.mp listed
    have row := mem_preorder_rowMarkup inside listed "td"
    have body := Markup.mem_preorder_wrap row (List.mem_map_of_mem here) "tbody"
    exact Markup.mem_preorder_wrap body (by simp) "table"

/-- A part is rendered under the identifiers left for it, and its output stands in that of the tree, by
induction on where the part stands.
-/
theorem Node.StandsIn.output {part root : Node} {left ids rest : List String}
    (stands : part.StandsIn left root ids) {cx : RenderContext} {out : Markup}
    (success : renderNode .standard cx root ids = .ok (out, rest))
    : ∃ markup after,
        renderNode .standard cx part left = .ok (markup, after) ∧ markup ∈ out.preorder := by
  induction stands generalizing out rest with
  | root => exact ⟨out, rest, success, Markup.mem_preorder_self out⟩
  | @child kind before behind node ids keeps inside ih =>
      obtain ⟨rendered, below, here⟩ := renderNode_plain_iff.mp success
      rw [dispatch_plain] at here
      obtain ⟨shell, known, rfl⟩ := Fallible.map_eq_ok_iff.mp here
      obtain ⟨first, between, others, earlier, later, rfl⟩ := renderList_append_iff.mp below
      obtain ⟨out, next, last, made, _, rfl⟩ := renderList_cons_iff.mp later
      -- What stands in front has taken its identifiers, and those that are left are the part's.
      rw [renderList_rest earlier] at made
      obtain ⟨markup, after, rendered, member⟩ := ih made
      refine ⟨markup, after, rendered, Shell.mem_preorder_fill known keeps ?_⟩
      exact Markup.mem_preorderAll.mpr ⟨out, by simp, member⟩
  | @cell children headers before behind rows node ids cells inside ih =>
      obtain ⟨rendered, ids₁, headersOut, ids₂, rowsOut, below, heads, body, here⟩ :=
        renderNode_table_iff.mp success
      rw [dispatch_table] at here
      obtain ⟨_, _, rfl⟩ := Fallible.map_eq_ok_iff.mp here
      -- Headers and cells are rendered one after another, as one list would be.
      have all : renderList .standard cx (headers ++ rows.flatten) ids₁
          = .ok (headersOut ++ rowsOut.flatten, rest) :=
        renderList_append_iff.mpr ⟨_, _, _, heads, renderList_flatten body, rfl⟩
      rw [cells] at all
      obtain ⟨first, between, others, earlier, later, same⟩ := renderList_append_iff.mp all
      obtain ⟨out, next, last, made, _, rfl⟩ := renderList_cons_iff.mp later
      rw [renderList_rest earlier, renderList_rest below, List.drop_drop,
        ← headingCount_append, ← preorderAll_append] at made
      obtain ⟨markup, after, rendered, member⟩ := ih made
      refine ⟨markup, after, rendered, Table.mem_preorder_toMarkup ?_⟩
      exact Markup.mem_preorderAll.mpr ⟨out, by rw [same]; simp, member⟩

end Docpress
