/-!
TOML values, and tables that grow entry by entry. A table remembers how it came about, since that
decides which later headers and keys may still reach into it.
-/

namespace Docpress.Toml

/-- How a table came about. -/
inductive Origin where
  /-- It is the top level, or a header names it. -/
  | stated
  /-- A header names something below it. -/
  | implied
  /-- A key names something below it. -/
  | dotted
  /-- It is written between braces. -/
  | braced
  deriving Repr, DecidableEq, Inhabited

/-- A TOML value. Only the written form of floating-point numbers, dates and times is kept. -/
inductive Value where
  | string (text : String)
  | integer (value : Int)
  | float (written : String)
  | bool (value : Bool)
  | moment (written : String)
  | array (items : List Value)
  | table (origin : Origin) (entries : List (String × Value))
  /-- The tables that a repeated header names. -/
  | tables (rows : List (List (String × Value)))
  deriving Repr, Inhabited

/-- The entries of a table in the order in which they are written. -/
abbrev Entries := List (String × Value)

/-- A key: the names of the tables that it passes, and the name of its entry. -/
structure Key where
  path : List String
  name : String
  deriving Repr, DecidableEq, Inhabited

/-- What leads through tables to an entry. -/
inductive Route where
  /-- The key of a header. -/
  | header
  /-- The key in front of a value. -/
  | entry
  deriving Repr, DecidableEq, Inhabited

namespace Route

/-- The origin of the tables that a route makes on its way. -/
def origin : Route → Origin
  | .header => .implied
  | .entry => .dotted

/-- Whether a route may pass a table of an origin. What stands between braces is complete, and the key
of a value only extends tables that no header has named.
-/
def passes : Route → Origin → Bool
  | _, .braced => false
  | .header, _ => true
  | .entry, .stated => false
  | .entry, _ => true

end Route

namespace Entries

/-- The entries with one more at their end, unless its name is taken. -/
def add? (entries : Entries) (name : String) (value : Value) : Option Entries :=
  if entries.any (·.1 == name) then none else some (entries ++ [(name, value)])

/-- The entries with a new value in the place of the old one. -/
def replace (entries : Entries) (name : String) (value : Value) : Entries :=
  entries.map fun entry => if entry.1 == name then (name, value) else entry

/-- Changes the table that a path leads to, seen from the entries of a table of the given origin. Tables
that are missing on the way are made, and a repeated table stands for its last row.
-/
def changeAt? (route : Route) (change : Origin → Entries → Option Entries)
    : List String → Origin → Entries → Option Entries
  | [], origin, entries => change origin entries
  | name :: path, _, entries =>
    match List.lookup name entries with
    | none => do
      let inner ← changeAt? route change path route.origin []
      return entries ++ [(name, .table route.origin inner)]
    | some (.table origin inner) =>
      if route.passes origin then do
        let inner ← changeAt? route change path origin inner
        return replace entries name (.table origin inner)
      else
        none
    | some (.tables rows) =>
      match rows.getLast? with
      | none => none
      | some row => do
        let row ← changeAt? route change path .stated row
        return replace entries name (.tables (rows.dropLast ++ [row]))
    | some _ => none

/-- Adds the value of a key to a table. The table that a key with a path leads to must itself come from
such a key.
-/
def insert? (origin : Origin) (entries : Entries) (key : Key) (value : Value) : Option Entries :=
  changeAt? .entry
    (fun origin entries =>
      if key.path.isEmpty || origin = .dotted then entries.add? key.name value else none)
    key.path origin entries

/-- Adds the values of keys to a table, one after the other. -/
def insertAll? (origin : Origin) (entries : Entries) (values : List (Key × Value)) : Option Entries :=
  values.foldlM (fun entries value => insert? origin entries value.1 value.2) entries

/-- Adds the table of a header. Only a table that other headers imply may be there already. -/
def insertTable? (entries : Entries) (header : Key) (values : List (Key × Value)) : Option Entries :=
  changeAt? .header
    (fun _ parent =>
      match List.lookup header.name parent with
      | none => do parent.add? header.name (.table .stated (← insertAll? .stated [] values))
      | some (.table .implied inner) => do
        return parent.replace header.name (.table .stated (← insertAll? .stated inner values))
      | some _ => none)
    header.path .stated entries

/-- Adds a row to the tables of a repeated header. -/
def insertRow? (entries : Entries) (header : Key) (values : List (Key × Value)) : Option Entries :=
  changeAt? .header
    (fun _ parent => do
      let row ← insertAll? .stated [] values
      match List.lookup header.name parent with
      | none => parent.add? header.name (.tables [row])
      | some (.tables rows) => some (parent.replace header.name (.tables (rows ++ [row])))
      | some _ => none)
    header.path .stated entries

end Entries

end Docpress.Toml
