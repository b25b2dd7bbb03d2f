import Docpress.Json.Decode
import Docpress.Settings

/-!
Settings written in JSON.
-/

namespace Docpress.Json.Source

/-- The name of a choice: a string, or the only key of an object with the value null. -/
def toChoice? : Source → Option String
  | .string text => text
  | .object [(key, .null)] => key
  | _ => none

/-- Whether a value is null. -/
def isNull : Source → Bool
  | .null => true
  | _ => false

instance : SettingSource Source where
  fields? := fields?
  bool? := toBool?
  text? := toText?
  nat? := toNat?
  choice? := toChoice?
  isNothing := isNull

end Docpress.Json.Source
