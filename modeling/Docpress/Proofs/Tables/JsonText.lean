import Docpress.Proofs.Json.Nesting
import Docpress.Table

/-!
Tables of JSON values are read back from their compact texts: the headers and the rows in order,
however long the rows are. A table without rows need not name them.
-/

namespace Docpress.Table

open Json Json.Source Fallible

/-- The members of the JSON form of a table whose cells are JSON values. -/
def members (table : Table Json) : List (String × Json) :=
  [("headers", .array table.headers), ("rows", .array (table.rows.map .array))]

/-- The JSON form of a table that leaves its rows out. -/
def headersAlone (headers : List Json) : Json :=
  .object [("headers", .array headers)]

/-- The JSON form of a table of JSON values has these values for its cells. -/
theorem toJson_id (table : Table Json) : table.toJson id = .object table.members := by
  simp [toJson, members]

-----------------------------------------------------------------------------------------
-- Reading cells
-----------------------------------------------------------------------------------------

variable {levels : Nat}

/-- A list of values is read as an array is, with a level of nesting of its own. -/
theorem toList?_toJson?_iff {source : Source} {items : List Json}
    : source.toList? (·.toJson? levels) = some items
      ↔ source.toJson? (levels + 1) = some (.array items) := by
  cases source with
  | array sources =>
      change sources.mapM (Source.toJson? levels) = _ ↔ (itemsToJson? levels sources).map _ = _
      rw [itemsToJson?_eq_mapM]
      simp
  | object sources => simp [toList?, Source.toJson?]
  | number numeral =>
      have notArray : numeral.value? ≠ some (.array items) := by
        intro known
        cases isNumber_of_value? known
      simp [toList?, Source.toJson?, notArray]
  | null | bool _ | string _ => simp [toList?, Source.toJson?]

/-- Rows of values are read as an array of arrays is, with two levels of nesting. -/
theorem toList?_toList?_iff {source : Source} {rows : List (List Json)}
    : source.toList? (·.toList? (·.toJson? levels)) = some rows
      ↔ source.toJson? (levels + 2) = some (.array (rows.map .array)) := by
  rw [← toList?_toJson?_iff]
  cases source with
  | array sources =>
      change sources.mapM _ = _ ↔ sources.mapM _ = _
      rw [mapM_eq_some_iff, mapM_eq_some_iff, List.forall₂_map_right_iff]
      simp only [toList?_toJson?_iff]
  | null | bool _ | number _ | string _ | object _ => simp [toList?]

-----------------------------------------------------------------------------------------
-- Reading tables
-----------------------------------------------------------------------------------------

/-- Reads a table of JSON values within the limit of nesting. -/
abbrev ofCells? (source : Source) : Option (Table Json) :=
  source |> ofSource?
    (·.toJson? (maxNesting - cellNesting.1))
    (·.toJson? (maxNesting - cellNesting.2))

/-- The rows that are read: none if they are left out. -/
inductive RowsRead : Option Source → List (List Json) → Prop where
  | leftOut
    : RowsRead none []
  | given {source : Source} {rows : List (List Json)}
    (known : source.toJson? (maxNesting - 1) = some (.array (rows.map .array)))
    : RowsRead (some source) rows

/-- A table is read just from a source with headers and perhaps rows, where the headers are an array and
the rows, if there are any, an array of arrays.
-/
theorem ofCells?_eq_some_iff {source : Source} {table : Table Json}
    : ofCells? source = some table
      ↔ ∃ headers rows,
          source.fields? ["headers", "rows"] = some [some headers, rows]
          ∧ headers.toJson? (maxNesting - 1) = some (.array table.headers)
          ∧ RowsRead rows table.rows := by
  constructor
  · intro known
    unfold ofCells? ofSource? at known
    split at known
    next headers rows fields =>
      refine ⟨headers, rows, fields, ?_⟩
      obtain ⟨heads, readHeads, known⟩ := Option.bind_eq_some_iff.mp known
      -- Rows that are left out are told from rows that are there by their field alone.
      cases rows with
      | none =>
          cases known
          exact ⟨toList?_toJson?_iff.mp readHeads, .leftOut⟩
      | some rows =>
          obtain ⟨body, readBody, known⟩ := Option.bind_eq_some_iff.mp known
          cases known
          exact ⟨toList?_toJson?_iff.mp readHeads, .given (toList?_toList?_iff.mp readBody)⟩
    · cases known
  · rintro ⟨headers, rows, fields, readHeads, readRows⟩
    obtain ⟨heads, body⟩ := table
    unfold ofCells? ofSource?
    rw [fields]
    refine Option.bind_eq_some_iff.mpr ⟨heads, toList?_toJson?_iff.mpr readHeads, ?_⟩
    cases readRows with
    | leftOut => rfl
    | given known => exact Option.bind_eq_some_iff.mpr ⟨body, toList?_toList?_iff.mpr known, rfl⟩

/-- Each table that is read keeps to the limit of nesting. -/
theorem nesting_of_ofCells? {source : Source} {table : Table Json}
    (known : ofCells? source = some table)
    : (table.toJson id).nesting ≤ maxNesting := by
  obtain ⟨heads, body⟩ := table
  obtain ⟨headers, rows, _, readHeads, readRows⟩ := ofCells?_eq_some_iff.mp known
  have heads := nesting_le_of_toJson? headers readHeads
  have body : (Json.array (body.map .array)).nesting ≤ maxNesting - 1 := by
    cases readRows with
    | leftOut => decide
    | given known => exact nesting_le_of_toJson? _ known
  rw [toJson_id, nesting]
  refine Nat.succ_le_succ (nestingOfMembers_le_iff.mpr ?_)
  simp only [members, List.forall_mem_cons]
  exact ⟨heads, body, List.forall_mem_nil _⟩

/-- Fields are read from an object just if all of its members have keys and each field is read by itself.
-/
theorem fields?_object_iff {members : List (Option String × Source)} {names : List String}
    {values : List (Option Source)}
    : fields? names (.object members) = some values
      ↔ members.all (·.1.isSome) = true
        ∧ List.Forall₂ (fun name value => memberValue? members name = some value) names values := by
  rw [fields?]
  split
  next named => simp only [named, mapM_eq_some_iff, true_and]
  next unnamed => simp only [unnamed, reduceCtorEq, false_and]

/-- Where the rows are left out, there are none. -/
theorem rowsRead_none_iff {rows : List (List Json)} : RowsRead none rows ↔ rows = [] := by
  constructor
  · intro read
    cases read
    rfl
  · rintro rfl
    exact .leftOut

/-- Where the rows are an empty array, there are none. -/
theorem rowsRead_empty_iff {rows : List (List Json)}
    : RowsRead (some (.array [])) rows ↔ rows = [] := by
  constructor
  · intro read
    cases read with
    | given known => simpa [Source.toJson?, maxNesting, itemsToJson?] using known
  · rintro rfl
    exact .given rfl

/-- Rows that are left out are as good as an empty list of rows. -/
theorem ofCells?_of_no_rows {before after : List (Option String × Source)}
    (unset : ∀ member ∈ before ++ after, member.1 ≠ some "rows")
    : ofCells? (.object (before ++ after))
      = ofCells? (.object (before ++ (some "rows", .array []) :: after)) := by
  -- The two objects differ in what is found under the key of the rows, and in nothing else.
  have noRows : (before ++ after).filter (·.1 == some "rows") = [] :=
    List.filter_eq_nil_iff.mpr fun member listed => by simpa using unset member listed
  have leftOut : memberValue? (before ++ after) "rows" = some none := by
    rw [memberValue?, noRows]
  have empty
      : memberValue? (before ++ (some "rows", .array []) :: after) "rows"
        = some (some (.array [])) := by
    rw [List.filter_append, List.append_eq_nil_iff] at noRows
    simp [memberValue?, noRows]
  have headers
      : memberValue? (before ++ (some "rows", .array []) :: after) "headers"
        = memberValue? (before ++ after) "headers" := by
    simp [memberValue?]
  have named
      : (before ++ (some "rows", .array []) :: after).all (·.1.isSome)
        = (before ++ after).all (·.1.isSome) := by
    simp
  refine Option.ext fun table => ?_
  simp [ofCells?_eq_some_iff, fields?_object_iff, leftOut, empty, headers, named,
    rowsRead_none_iff, rowsRead_empty_iff]

-----------------------------------------------------------------------------------------
-- Texts of tables
-----------------------------------------------------------------------------------------

variable {table : Table Json}

/-- All cells of a table are plain values. -/
structure PlainCells (table : Table Json) : Prop where
  headers : ∀ header ∈ table.headers, header.Plain
  rows : ∀ row ∈ table.rows, ∀ cell ∈ row, cell.Plain

/-- The headers of a table with plain cells are plain. -/
theorem PlainCells.plain_headers (plain : table.PlainCells) : (Json.array table.headers).Plain :=
  .array plain.headers

/-- The rows of a table with plain cells are plain. -/
theorem PlainCells.plain_rows (plain : table.PlainCells)
    : (Json.array (table.rows.map .array)).Plain := by
  refine .array fun row listed => ?_
  obtain ⟨cells, known, rfl⟩ := List.mem_map.mp listed
  exact .array (plain.rows cells known)

/-- The JSON form of a table with plain cells is plain. -/
theorem PlainCells.plain_toJson (plain : table.PlainCells) : (table.toJson id).Plain := by
  rw [toJson_id]
  refine .object (by simp [members]) ?_
  simp only [members, List.forall_mem_cons]
  exact ⟨plain.plain_headers, plain.plain_rows, nofun⟩

/-- The JSON form that leaves the rows out is plain if the cells are. -/
theorem PlainCells.plain_headersAlone (plain : table.PlainCells)
    : (headersAlone table.headers).Plain := by
  refine .object (by simp) ?_
  simp only [List.forall_mem_cons]
  exact ⟨plain.plain_headers, nofun⟩

/-- The compact text of a plain value is read as something that means this value. -/
theorem exists_source_of_plain {value : Json} (plain : value.Plain)
    : ∃ source, ofText? value.compact = ofCells? source ∧ Means source value := by
  obtain ⟨source, known, means⟩ := plain.numbersReadBack.isTextOf_compact.exists_source
  refine ⟨source, ?_, means⟩
  rw [ofText?, known]
  rfl

/-- A table is read from its own text exactly if its JSON form keeps to the limit of nesting. -/
theorem ofText?_compact_iff (plain : table.PlainCells)
    : ofText? (table.toJson id).compact = some table ↔ (table.toJson id).nesting ≤ maxNesting := by
  obtain ⟨source, read, means⟩ := exists_source_of_plain plain.plain_toJson
  rw [read]
  constructor
  · exact nesting_of_ofCells?
  · intro fits
    rw [toJson_id] at fits means
    have below := nestingOfMembers_le_iff.mp (Nat.le_of_succ_le_succ fits)
    simp only [members, List.forall_mem_cons] at below
    obtain ⟨headersFit, rowsFit, _⟩ := below
    cases means.writtenAs with
    | object pairs =>
        obtain ⟨headers, _, rfl, meansHeaders, others⟩ := exists_source_of_cons pairs
        obtain ⟨rows, _, rfl, meansRows, others⟩ := exists_source_of_cons others
        obtain rfl := List.forall₂_nil_right_iff.mp others
        have heads := plain.plain_headers.toJson?_of_means meansHeaders headersFit
        have body := plain.plain_rows.toJson?_of_means meansRows rowsFit
        exact ofCells?_eq_some_iff.mpr ⟨headers, some rows, rfl, heads, .given body⟩

/-- A text that leaves the rows out is read as the table without rows, as long as it is not nested too
deep.
-/
theorem ofText?_headersAlone (plain : table.PlainCells)
    (fits : (headersAlone table.headers).nesting ≤ maxNesting)
    : ofText? (headersAlone table.headers).compact = some ⟨table.headers, []⟩ := by
  obtain ⟨source, read, means⟩ := exists_source_of_plain plain.plain_headersAlone
  have below := nestingOfMembers_le_iff.mp (Nat.le_of_succ_le_succ fits)
  rw [read]
  cases means.writtenAs with
  | object pairs =>
      obtain ⟨headers, _, rfl, meansHeaders, others⟩ := exists_source_of_cons pairs
      obtain rfl := List.forall₂_nil_right_iff.mp others
      have heads :=
        plain.plain_headers.toJson?_of_means meansHeaders (below _ List.mem_cons_self)
      exact ofCells?_eq_some_iff.mpr ⟨headers, none, rfl, heads, .leftOut⟩

/-- The second text has all that the first one has, and an empty list of rows, which the first one
leaves out.
-/
inductive AddsEmptyRows : String → String → Prop where
  | intro {text full : String} {before after : List (Option String × Source)}
    (parsed : Source.ofText? text = some (.object (before ++ after)))
    (parsedFull
      : Source.ofText? full = some (.object (before ++ (some "rows", .array []) :: after)))
    (unset : ∀ member ∈ before ++ after, member.1 ≠ some "rows")
    : AddsEmptyRows text full

/-- A table of plain values is read from its compact text as it is, if its JSON form keeps to the
limit of nesting and never otherwise. Its headers alone are read as a table without rows, and no text
makes a difference between an empty list of rows and none.
-/
theorem json_text_reads_back (plain : table.PlainCells)
    : (ofText? (table.toJson id).compact = some table ↔ (table.toJson id).nesting ≤ maxNesting)
      ∧ ((headersAlone table.headers).nesting ≤ maxNesting
        → ofText? (headersAlone table.headers).compact = some ⟨table.headers, []⟩)
      ∧ ∀ text full, AddsEmptyRows text full → ofText? text = ofText? full := by
  refine ⟨ofText?_compact_iff plain, ofText?_headersAlone plain, ?_⟩
  intro text full adds
  cases adds with
  | intro parsed parsedFull unset =>
      rw [ofText?, parsed, ofText?, parsedFull]
      exact ofCells?_of_no_rows unset

/-- A table with values at the limits, and with rows of all lengths. -/
def plainSample : Table Json where
  headers := [.string "a \"b\"\\\x00\n\u2028/😀", .int (-9223372036854775808), .null]
  rows :=
    [[], [.object [("z", .array [.array [], .bool true]), ("", .int 18446744073709551615)]],
      [.object [], .null, .bool false, .string ""]]

/-- The sample has plain cells. -/
theorem plainCells_plainSample : plainSample.PlainCells where
  headers := by
    simp only [plainSample, List.forall_mem_cons]
    exact ⟨.string _, .int (by decide) (by decide), .null, nofun⟩
  rows := by
    have list : (Json.array [.array [], .bool true]).Plain := by
      refine .array ?_
      simp only [List.forall_mem_cons]
      exact ⟨.array nofun, .bool true, nofun⟩
    have cell
        : (Json.object
            [("z", .array [.array [], .bool true]), ("", .int 18446744073709551615)]).Plain := by
      refine .object (by decide) ?_
      simp only [List.forall_mem_cons]
      exact ⟨list, .int (by decide) (by decide), nofun⟩
    simp only [plainSample, List.forall_mem_cons]
    exact ⟨nofun, ⟨cell, nofun⟩,
      ⟨.object (by decide) nofun, .null, .bool false, .string "", nofun⟩, nofun⟩

/-- The headers of a table, with one of a kind that plain values leave out. -/
def rowlessText : String :=
  "\x7b\"headers\":[0.5]\x7d"

/-- The same headers before an empty list of rows. -/
def emptyRowsText : String :=
  "\x7b\"headers\":[0.5],\"rows\":[]\x7d"

/-- The second text of the sample is the first one with empty rows added. Both are written out and
compared.
-/
theorem addsEmptyRows_sample : AddsEmptyRows rowlessText emptyRowsText := by
  have chars
      : rowlessText.toList
        = ['\x7b', '"', 'h', 'e', 'a', 'd', 'e', 'r', 's', '"', ':', '[', '0', '.', '5', ']',
          '\x7d'] := by
    decide +kernel
  have charsFull
      : emptyRowsText.toList
        = ['\x7b', '"', 'h', 'e', 'a', 'd', 'e', 'r', 's', '"', ':', '[', '0', '.', '5', ']', ',',
          '"', 'r', 'o', 'w', 's', '"', ':', '[', ']', '\x7d'] := by
    decide +kernel
  have parsed
      : Source.ofText? rowlessText
        = some
            (.object
              ([(some "headers", .array [.number ⟨false, ['0'], ['5'], none⟩])] ++ [])) := by
    rw [Source.ofText?, chars]
    rfl
  have parsedFull
      : Source.ofText? emptyRowsText
        = some
            (.object
              ([(some "headers", .array [.number ⟨false, ['0'], ['5'], none⟩])]
                ++ [(some "rows", .array [])])) := by
    rw [Source.ofText?, charsFull]
    rfl
  exact .intro parsed parsedFull (by decide)

/-- A table with nested cells and ragged rows is read back, and leaving rows out is leaving them empty.
-/
theorem json_text_reads_back_of_plainSample
    : plainSample.PlainCells
      ∧ (plainSample.toJson id).nesting = 6
      ∧ ofText? (plainSample.toJson id).compact = some plainSample
      ∧ AddsEmptyRows rowlessText emptyRowsText
      ∧ ofText? rowlessText = ofText? emptyRowsText := by
  obtain ⟨readsBack, _, same⟩ := json_text_reads_back plainCells_plainSample
  have depth : (plainSample.toJson id).nesting = 6 := by decide
  refine ⟨plainCells_plainSample, depth, readsBack.mpr ?_, addsEmptyRows_sample,
    same _ _ addsEmptyRows_sample⟩
  rw [depth]
  decide

end Docpress.Table
