import Docpress.Render.Standard
import Docpress.Text.Printable

/-!
The choice of renderers by node type: the standard ones, with those that a caller gives on top.
-/

namespace Docpress

/-- A finite map from node types, in the order in which the types were first added. -/
structure TypeMap (α : Type) where
  entries : List (NodeType × α) := []

namespace TypeMap

/-- What is stored for a type. -/
def get? (map : TypeMap α) (type : NodeType) : Option α :=
  map.entries.lookup type

/-- Stores a value for a type, in place of any earlier one. -/
def insert (map : TypeMap α) (type : NodeType) (value : α) : TypeMap α :=
  if (map.get? type).isSome then
    ⟨map.entries.map fun entry => if entry.1 == type then (type, value) else entry⟩
  else
    ⟨map.entries ++ [(type, value)]⟩

/-- The number of types that something is stored for. -/
def size (map : TypeMap α) : Nat := map.entries.length

/-- Whether nothing is stored. -/
def isEmpty (map : TypeMap α) : Bool := map.entries.isEmpty

/-- The types that something is stored for, in the order of listings. -/
def types (map : TypeMap α) : List NodeType :=
  (map.entries.map Prod.fst).mergeSort NodeType.le

end TypeMap

/-- The renderers that a caller gives. -/
abbrev Overrides := TypeMap Renderer

/-- Whether a renderer is a standard one or one that a caller gives. -/
inductive Origin where
  | standard
  | override
  deriving Repr, DecidableEq, Inhabited

/-- The renderers of one rendering. -/
abbrev Registry := TypeMap (Renderer × Origin)

namespace Registry

/-- The standard renderers. -/
def standard : Registry :=
  ⟨[(.h1, .heading 1, .standard), (.h2, .heading 2, .standard), (.h3, .heading 3, .standard),
    (.h4, .heading 4, .standard), (.h5, .heading 5, .standard), (.h6, .heading 6, .standard),
    (.image, .image, .standard), (.link, .link, .standard), (.code, .code, .standard),
    (.table, .table, .standard)]⟩

/-- The standard renderers with the given ones on top. -/
def build (overrides : Option Overrides) : Registry :=
  match overrides with
  | none => standard
  | some overrides =>
    overrides.entries.foldl (fun registry entry => registry.insert entry.1 (entry.2, .override))
      standard

/-- The renderer of a type, if there is one. -/
def renderer? (registry : Registry) (type : NodeType) : Option Renderer :=
  (registry.get? type).map Prod.fst

/-- Where the renderer of a type comes from. -/
def origin? (registry : Registry) (type : NodeType) : Option Origin :=
  (registry.get? type).map Prod.snd

end Registry

namespace NodeType

/-- A type in listings: its word, and the quoted tag of another type. -/
def listing : NodeType → String
  | .other tag => "Other(" ++ Text.quotePrintable tag ++ ")"
  | type => type.label

end NodeType

/-- The listing of the types that renderers are given for. -/
def Overrides.listing (overrides : Overrides) : String :=
  "RendererOverrides \x7b node_types: ["
    ++ ", ".intercalate (overrides.types.map NodeType.listing) ++ "] \x7d"

/-- The word for an origin in listings. -/
def Origin.label : Origin → String
  | .standard => "Builtin"
  | .override => "Override"

/-- The listing of the types that have a renderer, each with its origin. -/
def Registry.listing (registry : Registry) : String :=
  let entry := fun (type : NodeType) =>
    let origin := match registry.origin? type with
      | some origin => "Some(" ++ origin.label ++ ")"
      | none => "None"
    type.listing ++ ": " ++ origin
  "\x7b" ++ ", ".intercalate (registry.types.map entry) ++ "\x7d"

end Docpress
