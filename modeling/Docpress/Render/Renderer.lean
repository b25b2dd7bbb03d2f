import Docpress.Node.Type
import Docpress.Options
import Docpress.Render.Error
import Docpress.Slug
import Docpress.Table

/-!
Renderers: functions from a node, with what is below it already rendered, to output.
-/

namespace Docpress

/-- What the renderers of one document share. -/
structure RenderContext where
  options : RenderOptions
  /-- The highlight manager, if code can be highlighted. -/
  highlighting : Option HighlightManager

/-- What a renderer is given. -/
structure Props where
  node : Node
  /-- The children of the node, rendered. -/
  children : List Markup
  /-- The cells of a table, rendered. -/
  table : Option (Table Markup) := none
  /-- The identifier that the document gives the node, if it is one of its headings. -/
  anchor : Option String := none
  /-- The identifiers of the headings nested in the node, in document order. -/
  nestedIds : List String := []

/-- The identifier of a heading. A node that is no heading of the document has its plain slug. -/
def Props.headingId (props : Props) : String :=
  props.anchor.getD (slugify props.node.textContent)

/-- Turns a node into output. -/
abbrev Renderer := Props → RenderContext → Except RenderError Markup

end Docpress
