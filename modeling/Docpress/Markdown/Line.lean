import Docpress.Text.WhiteSpace

/-!
Lines of a document, and a cursor that walks a line by columns. A tab reaches to the next multiple of
four columns and can be passed in part.
-/

namespace Docpress.Markdown

open Text

/-- A line of a document. -/
structure Line where
  text : List Char
  /-- Whether the line has an end. Only the last line of a document may do without. -/
  ended : Bool
  deriving Repr, DecidableEq

/-- The lines of a text. Line feed, carriage return, and both together end a line; a null character
becomes the replacement character.
-/
def lines (text : List Char) : List Line :=
  go [] text
where
  /-- The lines of a text whose first line starts with the reversed `line`. -/
  go (line : List Char) : List Char → List Line
    | [] => if line.isEmpty then [] else [⟨line.reverse, false⟩]
    | '\r' :: '\n' :: rest => ⟨line.reverse, true⟩ :: go [] rest
    | '\r' :: rest => ⟨line.reverse, true⟩ :: go [] rest
    | '\n' :: rest => ⟨line.reverse, true⟩ :: go [] rest
    | c :: rest => go ((if c == '\x00' then '\uFFFD' else c) :: line) rest

/-- The lines as one text, each ended by a line feed. -/
def joinLines (lines : List (List Char)) : List Char :=
  lines.flatMap (· ++ ['\n'])

/-- What is left of a line, and the column where it starts. -/
structure Cursor where
  rest : List Char
  column : Nat := 0
  /-- Whether the rest starts with a tab of which some columns are passed already. -/
  inTab : Bool := false
  /-- Whether the line has an end. -/
  ended : Bool := true
  deriving Repr, DecidableEq, Inhabited

namespace Cursor

/-- The number of columns from one tab stop to the next. -/
def tabStop : Nat := 4

/-- The number of columns that a tab takes at a column. -/
def tabWidth (column : Nat) : Nat := tabStop - column % tabStop

/-- The column after the blanks at the start of a text. -/
def columnAfterBlanks (column : Nat) : List Char → Nat
  | ' ' :: rest => columnAfterBlanks (column + 1) rest
  | '\t' :: rest => columnAfterBlanks (column + tabWidth column) rest
  | _ => column

/-- The number of columns of blanks before the first other character. -/
def indent (cursor : Cursor) : Nat :=
  columnAfterBlanks cursor.column cursor.rest - cursor.column

/-- The rest from its first character that is neither space nor tab. -/
def content (cursor : Cursor) : List Char :=
  cursor.rest.dropWhile isSpaceOrTab

/-- Whether nothing but spaces and tabs is left. -/
def isBlank (cursor : Cursor) : Bool :=
  cursor.content.isEmpty

/-- The cursor at its content. -/
def skipBlanks (cursor : Cursor) : Cursor :=
  if cursor.rest.length = cursor.content.length then cursor
  else
    { cursor with
      rest := cursor.content
      column := columnAfterBlanks cursor.column cursor.rest
      inTab := false }

/-- The cursor behind `count` characters, none of which is a tab. -/
def skipChars (count : Nat) (cursor : Cursor) : Cursor :=
  { cursor with rest := cursor.rest.drop count, column := cursor.column + count, inTab := false }

/-- The cursor one column further. -/
def nextColumn (cursor : Cursor) : Cursor :=
  match cursor.rest with
  | [] => cursor
  | '\t' :: rest =>
    if tabWidth cursor.column = 1 then
      { cursor with rest := rest, column := cursor.column + 1, inTab := false }
    else
      { cursor with column := cursor.column + 1, inTab := true }
  | _ :: rest => { cursor with rest := rest, column := cursor.column + 1, inTab := false }

/-- The cursor `count` columns further. -/
def skipColumns : (count : Nat) → Cursor → Cursor
  | 0, cursor => cursor
  | count + 1, cursor => skipColumns count cursor.nextColumn

/-- Whether the rest starts with a space or tab. -/
def startsBlank (cursor : Cursor) : Bool :=
  match cursor.rest with
  | c :: _ => isSpaceOrTab c
  | [] => false

/-- The cursor behind at most `count` columns of blanks. -/
def skipBlankColumns : (count : Nat) → Cursor → Cursor
  | 0, cursor => cursor
  | count + 1, cursor =>
    if cursor.startsBlank then skipBlankColumns count cursor.nextColumn else cursor

/-- The rest as text. A tab that is passed in part counts as the spaces that are left of it. -/
def text (cursor : Cursor) : List Char :=
  match cursor.inTab, cursor.rest with
  | true, '\t' :: rest => List.replicate (tabWidth cursor.column) ' ' ++ rest
  | _, rest => rest

/-- The rest as text, with the end of the line. -/
def literal (cursor : Cursor) : List Char :=
  cursor.text ++ (if cursor.ended then ['\n'] else [])

end Cursor

end Docpress.Markdown
