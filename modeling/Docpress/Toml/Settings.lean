import Docpress.Settings
import Docpress.Toml.Document

/-!
Settings written in TOML. TOML has no value for what is not set, so that every setting which is
given is set.
-/

namespace Docpress.Toml.Value

/-- The fields of a record. A table gives each under its name and may have other entries; an array gives
them in order, and its further items do not count. A date or time gives none.
-/
def fields? (names : List String) : Value → Option (List (Option Value))
  | .table _ entries => some (names.map fun name => entries.lookup name)
  | .array items =>
    some ((items.map some ++ List.replicate names.length none).take names.length)
  | .tables rows =>
    let items := rows.map fun row => some (Value.table .stated row)
    some ((items ++ List.replicate names.length none).take names.length)
  | .moment _ => some (names.map fun _ => none)
  | _ => none

/-- A truth value. -/
def toBool? : Value → Option Bool
  | .bool value => some value
  | _ => none

/-- A text. -/
def toText? : Value → Option String
  | .string text => some text
  | _ => none

/-- A natural number. -/
def toNat? : Value → Option Nat
  | .integer value => if 0 ≤ value then some value.toNat else none
  | _ => none

/-- Whether a value is a table or an array that holds nothing. -/
def isHollow : Value → Bool
  | .table _ [] => true
  | .array [] => true
  | _ => false

/-- The name of a choice: a string, or the only key of a table whose value holds nothing. -/
def toChoice? : Value → Option String
  | .string text => some text
  | .table _ [(name, value)] => if value.isHollow then some name else none
  | _ => none

instance : SettingSource Value where
  fields? := fields?
  bool? := toBool?
  text? := toText?
  nat? := toNat?
  choice? := toChoice?
  isNothing := fun _ => false

end Docpress.Toml.Value
