import Docpress.Json.Decode
import Docpress.Markup

/-!
Tables: a row of headers over rows of cells. Rows may be shorter or longer than the headers.
-/

namespace Docpress

/-- A table of cells. -/
structure Table (α : Type) where
  headers : List α
  rows : List (List α) := []
  deriving Repr, DecidableEq, Inhabited

namespace Table

/-- The table with every cell converted. -/
def map (f : α → β) (table : Table α) : Table β :=
  ⟨table.headers.map f, table.rows.map (·.map f)⟩

/-- The table with every cell converted, the headers first and then row by row, up to the first
failure.
-/
def tryMap (f : α → Except ε β) (table : Table α) : Except ε (Table β) := do
  let headers ← table.headers.mapM f
  let rows ← table.rows.mapM (·.mapM f)
  return ⟨headers, rows⟩

/-- A row whose length is not that of the headers. -/
structure Ragged where
  row : Nat
  length : Nat
  deriving Repr, DecidableEq

/-- The first row, counted from `index`, that does not have the given length. -/
def firstRaggedFrom? (expected index : Nat) : List (List α) → Option Ragged
  | [] => none
  | row :: rest =>
    if row.length = expected then firstRaggedFrom? expected (index + 1) rest
    else some ⟨index, row.length⟩

/-- The first row whose length is not that of the headers. -/
def firstRagged? (table : Table α) : Option Ragged :=
  firstRaggedFrom? table.headers.length 0 table.rows

/-- A row element with one element of the given name for each cell. -/
def rowMarkup (cellName : String) (cells : List Markup) : Markup :=
  .wrap "tr" (cells.map fun cell => .wrap cellName [cell])

/-- The table element of rendered cells: the headers in a row of their own, then every row as it
is, without padding or cutting.
-/
def toMarkup (table : Table Markup) : Markup :=
  .wrap "table"
    [.wrap "thead" [rowMarkup "th" table.headers],
      .wrap "tbody" (table.rows.map (rowMarkup "td"))]

/-- The JSON form of a table. -/
def toJson (cell : α → Json) (table : Table α) : Json :=
  .object
    [("headers", .array (table.headers.map cell)),
      ("rows", .array (table.rows.map fun row => .array (row.map cell)))]

/-- Reads a table from its JSON form. The headers must be given; no rows stand for an empty list. -/
def ofSource? (header cell : Json.Source → Option α) (source : Json.Source) : Option (Table α) :=
  match source.fields? ["headers", "rows"] with
  | some [some headers, rows] => do
    let headers ← headers.toList? header
    let rows ← match rows with
      | some rows => rows.toList? (·.toList? cell)
      | none => some []
    return ⟨headers, rows⟩
  | _ => none

/-- How many levels of nesting surround a header of a table, and a cell in a row. -/
def cellNesting : Nat × Nat := (2, 3)

/-- Reads a table of free-form values from JSON text. -/
def ofText? (text : String) : Option (Table Json) := do
  let source ← Json.Source.ofText? text
  source |> ofSource?
    (·.toJson? (Json.maxNesting - cellNesting.1))
    (·.toJson? (Json.maxNesting - cellNesting.2))

end Table

end Docpress
