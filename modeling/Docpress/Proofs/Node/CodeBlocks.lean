import Docpress.Node.OfMarkdown
import Docpress.Proofs.Markdown.Texts
import Docpress.Proofs.Rendering.Parts

/-!
The nodes of code blocks. A code block that is marked as a table becomes a table whose cells are the
nodes of the texts of its values, and wherever a code block is read, even in the text of such a cell,
its node shows in the tree of the document.
-/

namespace Docpress.Node

open Fallible Markdown

/-- The node of the text of a cell, for a table below which `levels` levels are left. -/
def inlineCell (read : BlockReader) (options : RenderOptions) (levels : Nat) (text : String)
    : Except RenderError Node :=
  let ofCellBlock (block : Block (List Inline)) : Except RenderError (List Node) :=
    match levels with
    | 0 => .error tooDeep
    | levels + 1 => ofBlock read options levels block
  (cellChildren (ofInline (levels - 1)) ofCellBlock (read text)).map (plain .tableCell)

/-- Whether a code block is read with a block: as one of the blocks in it, or in the text of a cell of
a table in it.
-/
inductive HasCode (read : BlockReader) (options : RenderOptions) (info literal : String)
    : Block (List Inline) → Prop where
  | listed {block : Block (List Inline)} (member : .code info literal ∈ block.preorder)
    : HasCode read options info literal block
  | inCell {block inner : Block (List Inline)} {outerInfo outerLiteral : String}
    {table : Table Json} {value : Json} (outer : .code outerInfo outerLiteral ∈ block.preorder)
    (structured : structuredTable? options (infoLanguage? outerInfo) outerLiteral = some table)
    (cell : value ∈ table.headers ++ table.rows.flatten) (inside : inner ∈ read (cellText value))
    (has : HasCode read options info literal inner)
    : HasCode read options info literal block

variable {read : BlockReader} {options : RenderOptions} {info literal : String}

/-- The cells of a table that can be read are the nodes of the texts of its values. -/
theorem ofBlock_structured {table : Table Json}
    (structured : structuredTable? options (infoLanguage? info) literal = some table)
    {levels : Nat} {nodes : List Node}
    (success : ofBlock read options (levels + 1) (.code info literal) = .ok nodes)
    : ∃ headers rows,
        nodes = [.table [] headers rows]
        ∧ table.headers.mapM (fun value => inlineCell read options levels (cellText value))
          = .ok headers
        ∧ table.rows.mapM
            (fun row => row.mapM fun value => inlineCell read options levels (cellText value))
          = .ok rows := by
  rw [ofBlock.eq_def] at success
  simp only [structured] at success
  obtain ⟨cells, made, rfl⟩ := map_eq_ok_iff.mp success
  obtain ⟨headers, heads, made⟩ := bind_eq_ok_iff.mp made
  obtain ⟨rows, body, made⟩ := bind_eq_ok_iff.mp made
  cases made
  exact ⟨headers, rows, rfl, heads, body⟩

/-- Every value of a table has its node among the cells. -/
theorem exists_cell_of_mem {table : Table Json} {headers : List Node} {rows : List (List Node)}
    {cellOf : Json → Except RenderError Node} (heads : table.headers.mapM cellOf = .ok headers)
    (body : table.rows.mapM (fun row => row.mapM cellOf) = .ok rows) {value : Json}
    (member : value ∈ table.headers ++ table.rows.flatten)
    : ∃ cell ∈ headers ++ rows.flatten, cellOf value = .ok cell := by
  rcases List.mem_append.mp member with header | listed
  · obtain ⟨cell, listed, made⟩ := exists_result_of_mem heads header
    exact ⟨cell, List.mem_append_left _ listed, made⟩
  · obtain ⟨row, here, listed⟩ := List.mem_flatten.mp listed
    obtain ⟨cells, there, made⟩ := exists_result_of_mem body here
    obtain ⟨cell, listed, made⟩ := exists_result_of_mem made listed
    have inside : cell ∈ rows.flatten := List.mem_flatten.mpr ⟨cells, there, listed⟩
    exact ⟨cell, List.mem_append_right _ inside, made⟩

/-- A code block becomes one node. -/
theorem exists_ofBlock_code {levels : Nat} {nodes : List Node}
    (success : ofBlock read options levels (.code info literal) = .ok nodes)
    : ∃ below node, levels = below + 1 ∧ nodes = [node] := by
  cases levels with
  | zero => cases success
  | succ levels =>
      cases structured : structuredTable? options (infoLanguage? info) literal with
      | none =>
          rw [ofBlock.eq_def] at success
          simp only [structured] at success
          cases success
          exact ⟨levels, _, rfl, rfl⟩
      | some table =>
          obtain ⟨headers, rows, rfl, _⟩ := ofBlock_structured structured success
          exact ⟨levels, _, rfl, rfl⟩

/-- What shows among the nodes of one of the blocks shows among the nodes of all. -/
theorem exists_shows_of_mapM {α : Type} {convert : α → Except RenderError (List Node)}
    {items : List α} {groups : List (List Node)} (success : items.mapM convert = .ok groups)
    {item : α} (member : item ∈ items) {P : Node → Prop}
    (each : ∀ nodes, convert item = .ok nodes → ∃ node ∈ nodes, P node)
    : ∃ node ∈ groups.flatten, P node := by
  obtain ⟨nodes, listed, made⟩ := exists_result_of_mem success member
  obtain ⟨node, here, holds⟩ := each nodes made
  exact ⟨node, List.mem_flatten.mpr ⟨nodes, listed, here⟩, holds⟩

/-- Some node that shows in a tree is that of a code block. -/
def ShowsCode (read : BlockReader) (options : RenderOptions) (info literal : String) (root : Node)
    : Prop :=
  ∃ levels node,
    ofBlock read options (levels + 1) (.code info literal) = .ok [node] ∧ node.ShowsIn root

/-- Code that shows in a child shows in its parent, as long as this one keeps its children. -/
theorem ShowsCode.child {kind : Kind} {children : List Node} (keeps : kind.keepsChildren = true)
    (shows : ∃ child ∈ children, ShowsCode read options info literal child)
    : ShowsCode read options info literal (.plain kind children) := by
  obtain ⟨child, member, levels, node, made, inside⟩ := shows
  exact ⟨levels, node, made, inside.child keeps member⟩

/-- The node of a code block among the blocks in a block shows in the nodes of that block. The induction
is on the levels left, of which a list takes two.
-/
theorem shows_of_mem_preorder {levels : Nat} {block : Block (List Inline)} {nodes : List Node}
    (success : ofBlock read options levels block = .ok nodes)
    (member : .code info literal ∈ block.preorder)
    : ∃ node ∈ nodes, ShowsCode read options info literal node := by
  induction levels using Nat.strongRecOn generalizing block nodes with
  | ind levels ih =>
    cases block with
    | code otherInfo otherLiteral =>
        cases List.mem_singleton.mp member
        obtain ⟨below, node, rfl, rfl⟩ := exists_ofBlock_code success
        exact ⟨node, List.mem_singleton_self node, below, node, success, .refl node⟩
    | quote children | other tag children =>
        cases levels with
        | zero => cases success
        | succ levels =>
            rw [ofBlock.eq_def] at success
            obtain ⟨groups, below, rfl⟩ := map_eq_ok_iff.mp success
            rw [Block.preorder, List.mem_cons] at member
            have inside := member.resolve_left (by simp)
            rw [Block.preorderAll_eq_flatMap] at inside
            obtain ⟨child, listed, found⟩ := List.mem_flatMap.mp inside
            refine ⟨_, List.mem_singleton_self _, .child rfl ?_⟩
            exact exists_shows_of_mapM below listed fun nodes made =>
              ih levels (Nat.lt_succ_self levels) made found
    | list start items =>
        cases levels with
        | zero => cases success
        | succ levels =>
            rw [ofBlock.eq_def] at success
            obtain ⟨nodes, below, rfl⟩ := map_eq_ok_iff.mp success
            rw [Block.preorder, List.mem_cons] at member
            have inside := member.resolve_left (by simp)
            rw [Block.preorderItems_eq_flatten, Block.preorderAll_eq_flatMap] at inside
            obtain ⟨child, listed, found⟩ := List.mem_flatMap.mp inside
            obtain ⟨item, here, listed⟩ := List.mem_flatten.mp listed
            refine ⟨_, List.mem_singleton_self _, .child rfl ?_⟩
            obtain ⟨node, among, made⟩ := exists_result_of_mem below here
            refine ⟨node, among, ?_⟩
            -- An item takes a level of its own, so that its blocks have two levels fewer than the list.
            cases levels with
            | zero => cases made
            | succ levels =>
                obtain ⟨groups, below, rfl⟩ := map_eq_ok_iff.mp made
                refine .child rfl (exists_shows_of_mapM below listed fun nodes made => ?_)
                exact ih levels (by omega) made found
    | _ => cases List.mem_singleton.mp member

/-- No code block is read with a paragraph. -/
theorem HasCode.not_paragraph {content : List Inline}
    (has : HasCode read options info literal (.paragraph content))
    : False := by
  cases has with
  | listed member => cases List.mem_singleton.mp member
  | inCell outer => cases List.mem_singleton.mp outer

/-- The node of a code block that is read with a block shows in the nodes of the block, by induction on
how it is read.
-/
theorem HasCode.shows {block : Block (List Inline)}
    (has : HasCode read options info literal block) {levels : Nat} {nodes : List Node}
    (success : ofBlock read options levels block = .ok nodes)
    : ∃ node ∈ nodes, ShowsCode read options info literal node := by
  induction has generalizing levels nodes with
  | listed member => exact shows_of_mem_preorder success member
  | @inCell block inner outerInfo outerLiteral table value outer structured cell inside has ih =>
      obtain ⟨node, member, below, outerNode, made, shows⟩ := shows_of_mem_preorder success outer
      obtain ⟨headers, rows, same, heads, body⟩ := ofBlock_structured structured made
      cases same
      obtain ⟨cellNode, among, made⟩ := exists_cell_of_mem heads body cell
      obtain ⟨children, held, rfl⟩ := map_eq_ok_iff.mp made
      obtain ⟨groups, blocks, rfl⟩ := map_eq_ok_iff.mp held
      have shown : ShowsCode read options info literal (.plain .tableCell groups.flatten) := by
        refine .child rfl (exists_shows_of_mapM blocks inside fun nodes made => ?_)
        cases inner with
        | paragraph content => exact has.not_paragraph.elim
        | _ =>
            cases below with
            | zero => cases made
            | succ below => exact ih made
      obtain ⟨levels, part, made, within⟩ := shown
      exact ⟨node, member, levels, part, made, (within.cell among).trans shows⟩

end Docpress.Node
