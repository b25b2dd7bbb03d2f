import Docpress.Json
import Docpress.Markup

/-!
The JSON form of an output tree. Each node is an object with one member, named for what the node is.
-/

namespace Docpress

/-- The name of a tag in JSON. A navigation link has a name of its own. -/
def Tag.jsonName : Tag → String
  | .html name => name
  | .navLink => "NavLink"

/-- Attributes as an object, in order. -/
def Attributes.toJson (attrs : Attributes) : Json :=
  .object (attrs.entries.map fun entry => (entry.1, .string entry.2))

mutual

/-- The JSON form of an output tree. -/
def Markup.toJson : Markup → Json
  | .element tag attrs children =>
    .object [("element", .object
      [("tag", .string tag.jsonName),
        ("attrs", attrs.toJson),
        ("children", .array (Markup.listToJson children))])]
  | .text value => .object [("text", .string value)]
  | .trusted markup => .object [("trusted", .string markup)]
  | .fragment children => .object [("fragment", .array (Markup.listToJson children))]

/-- The JSON forms of a list of output trees. -/
def Markup.listToJson : List Markup → List Json
  | [] => []
  | child :: rest => child.toJson :: Markup.listToJson rest

end

end Docpress
