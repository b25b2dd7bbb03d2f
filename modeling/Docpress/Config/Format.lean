/-!
The formats of configuration files.
-/

namespace Docpress

/-- The formats of configuration files. -/
inductive ConfigFormat where
  | toml
  | json
  deriving Repr, DecidableEq, Inhabited

namespace ConfigFormat

/-- The names of the formats, which are the extensions of their files too. -/
def names : List (String × ConfigFormat) :=
  [("toml", .toml), ("json", .json)]

/-- The name of a format. -/
def name : ConfigFormat → String
  | .toml => "toml"
  | .json => "json"

/-- The name of a format as messages give it. -/
def title : ConfigFormat → String
  | .toml => "TOML"
  | .json => "JSON"

end ConfigFormat

end Docpress
