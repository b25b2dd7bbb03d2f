import Docpress.Toml.Scalar
import Docpress.Toml.Text

/-!
TOML documents. A text is read as a list of sections, each with the entries that stand below its
header; the sections then build up one table.
-/

namespace Docpress.Toml

open Text

/-- How deep arrays and tables in braces may nest. -/
def maxNesting : Nat := 80

/-- The text behind blanks, line breaks and comments. -/
def skipLines? : (inComment : Bool) → List Char → Option (List Char)
  | _, [] => some []
  | _, '\n' :: rest => skipLines? false rest
  | _, '\r' :: '\n' :: rest => skipLines? false rest
  | inComment, c :: rest =>
    if inComment then
      if isPlain c then skipLines? true rest else none
    else if isSpaceOrTab c then
      skipLines? false rest
    else if c == '#' then
      skipLines? true rest
    else
      some (c :: rest)

/-- The text behind the end of a line, if only blanks and a comment stand before it. -/
def endLine? : (inComment : Bool) → List Char → Option (List Char)
  | _, [] => some []
  | _, '\n' :: rest => some rest
  | _, '\r' :: '\n' :: rest => some rest
  | inComment, c :: rest =>
    if inComment then
      if isPlain c then endLine? true rest else none
    else if isSpaceOrTab c then
      endLine? false rest
    else if c == '#' then
      endLine? true rest
    else
      none

/-- The text behind blanks. -/
def skipSpaces (text : List Char) : List Char :=
  text.dropWhile isSpaceOrTab

/-- Whether a character may stand in a name without quotes. -/
def isBareKeyChar (c : Char) : Bool :=
  c.isAlphanum || c == '_' || c == '-'

/-- One name of a key, and the text behind it. -/
def keyName? (text : List Char) : Option (String × List Char) :=
  match text.takeWhile isBareKeyChar with
  | [] => quoted? text
  | name => some (String.ofList name, text.dropWhile isBareKeyChar)

/-- A key at the start of a text, and the text behind it and its blanks. -/
def key? : (steps : Nat) → List Char → Option (Key × List Char)
  | 0, _ => none
  | steps + 1, text => do
    let (name, rest) ← keyName? text
    match skipSpaces rest with
    | '.' :: rest =>
      let (key, rest) ← key? steps (skipSpaces rest)
      return (⟨name :: key.path, key.name⟩, rest)
    | rest => return (⟨[], name⟩, rest)

mutual

/-- A value at the start of a text, and the text behind it. Arrays and tables may nest `levels` deep.
Every step reads at least one character.
-/
def value? (levels : Nat) : (steps : Nat) → List Char → Option (Value × List Char)
  | 0, _ => none
  | steps + 1, text =>
    match text with
    | '[' :: rest =>
      match levels with
      | 0 => none
      | levels + 1 => do
        let (items, rest) ← items? levels steps (← skipLines? false rest)
        return (.array items, rest)
    | '\x7b' :: rest =>
      match levels with
      | 0 => none
      | levels + 1 => do
        let (values, rest) ← members? levels steps (← skipLines? false rest)
        return (.table .braced (← Entries.insertAll? .braced [] values), rest)
    | '"' :: _ => (string? text).map fun (text, rest) => (.string text, rest)
    | '\x27' :: _ => (string? text).map fun (text, rest) => (.string text, rest)
    | _ => scalar? text

/-- The items of an array up to its closing bracket. -/
def items? (levels : Nat) : (steps : Nat) → List Char → Option (List Value × List Char)
  | 0, _ => none
  | steps + 1, text =>
    match text with
    | ']' :: rest => some ([], rest)
    | _ => do
      let (item, rest) ← value? levels steps text
      match ← skipLines? false rest with
      | ',' :: rest =>
        let (items, rest) ← items? levels steps (← skipLines? false rest)
        return (item :: items, rest)
      | ']' :: rest => return ([item], rest)
      | _ => none

/-- The entries of a table up to its closing brace. -/
def members? (levels : Nat) : (steps : Nat) → List Char → Option (List (Key × Value) × List Char)
  | 0, _ => none
  | steps + 1, text =>
    match text with
    | '\x7d' :: rest => some ([], rest)
    | _ => do
      let (key, rest) ← key? steps text
      match rest with
      | '=' :: rest =>
        let (value, rest) ← value? levels steps (skipSpaces rest)
        match ← skipLines? false rest with
        | ',' :: rest =>
          let (members, rest) ← members? levels steps (← skipLines? false rest)
          return ((key, value) :: members, rest)
        | '\x7d' :: rest => return ([(key, value)], rest)
        | _ => none
      | _ => none

end

/-- A line of a document that is not blank. -/
inductive Statement where
  /-- The header of a table. -/
  | table (header : Key)
  /-- The header of a further row of tables. -/
  | row (header : Key)
  /-- A key and its value. -/
  | entry (key : Key) (value : Value)
  deriving Repr, Inhabited

/-- A statement at the start of a text, and the text behind it. -/
def statement? (steps : Nat) : List Char → Option (Statement × List Char)
  | '[' :: '[' :: text => do
    let (header, rest) ← key? steps (skipSpaces text)
    return (.row header, ← expect? ']' (← expect? ']' rest))
  | '[' :: text => do
    let (header, rest) ← key? steps (skipSpaces text)
    return (.table header, ← expect? ']' rest)
  | text => do
    let (key, rest) ← key? steps text
    let (value, rest) ← value? maxNesting steps (skipSpaces (← expect? '=' rest))
    return (.entry key value, rest)

/-- The statements of a text, each on a line of its own. -/
def statements? : (steps : Nat) → List Char → Option (List Statement)
  | 0, _ => none
  | steps + 1, text => do
    match ← skipLines? false text with
    | [] => return []
    | text =>
      let (statement, rest) ← statement? steps text
      let statements ← statements? steps (← endLine? false rest)
      return statement :: statements

/-- The entries before the first header, and the statements from it on. -/
def leadingEntries : List Statement → List (Key × Value) × List Statement
  | .entry key value :: rest =>
    let (values, rest) := leadingEntries rest
    ((key, value) :: values, rest)
  | statements => ([], statements)

/-- Adds the sections of a document to a table, one after the other. The entries of a section are
the ones right behind its header.
-/
def insertSections? (entries : Entries) : List Statement → Option Entries
  | [] => some entries
  | .table header :: rest => do
    insertSections? (← entries.insertTable? header (leadingEntries rest).1) rest
  | .row header :: rest => do
    insertSections? (← entries.insertRow? header (leadingEntries rest).1) rest
  | .entry .. :: rest => insertSections? entries rest

/-- A document without the byte order mark that may stand before it. -/
def dropByteOrderMark : List Char → List Char
  | '\ufeff' :: text => text
  | text => text

/-- The table that a document denotes. -/
def ofText? (text : String) : Option Value := do
  let chars := dropByteOrderMark text.toList
  let statements ← statements? (chars.length + 1) chars
  let entries ← Entries.insertAll? .stated [] (leadingEntries statements).1
  return .table .stated (← insertSections? entries statements)

end Docpress.Toml
