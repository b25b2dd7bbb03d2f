import Docpress.Text.WhiteSpace

/-!
Rows of tables as they are written: cells between bars, and the row of dashes under the headers.
-/

namespace Docpress.Markdown.TableRow

open Text

/-- Drops every backslash that stands before a bar. -/
def unescapeBars : List Char → List Char
  | '\\' :: '|' :: rest => '|' :: unescapeBars rest
  | c :: rest => c :: unescapeBars rest
  | [] => []

/-- A cell out of its reversed characters. -/
def cellText (reversed : List Char) : List Char :=
  unescapeBars (trimBy isAsciiBlank reversed.reverse)

/-- The cells of a text that goes on a cell with the given reversed characters. Bars separate cells
unless a backslash stands right before them, and blanks behind the last bar make no cell.
-/
def splitCells (reversed : List Char) : List Char → List (List Char)
  | [] => if reversed.all isAsciiBlank then [] else [cellText reversed]
  | c :: rest =>
    if c == '|' && reversed.head? != some '\\' then cellText reversed :: splitCells [] rest
    else splitCells (c :: reversed) rest

/-- The cells of a line. A line without cells is no row. -/
def cells (line : List Char) : List (List Char) :=
  match line with
  | '|' :: rest => splitCells [] rest
  | _ => splitCells [] line

/-- The text without a colon at its start. -/
def dropColon : List Char → List Char
  | ':' :: rest => rest
  | text => text

/-- Whether a cell holds dashes only, apart from a colon at each end. -/
def isDelimiterCell (cell : List Char) : Bool :=
  match dropColon cell with
  | '-' :: rest => (dropColon (rest.dropWhile (· == '-'))).isEmpty
  | _ => false

/-- Whether a line is the row of dashes under the headers of a table. -/
def isDelimiterRow (line : List Char) : Bool :=
  let row := cells line
  !row.isEmpty && row.all isDelimiterCell

/-- The cells of a row, cut or filled up with empty cells to a width. -/
def fit (width : Nat) (row : List (List Char)) : List (List Char) :=
  row.take width ++ List.replicate (width - row.length) []

end Docpress.Markdown.TableRow
