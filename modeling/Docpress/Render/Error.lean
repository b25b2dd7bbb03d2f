import Docpress.Highlight

/-!
What goes wrong when a document is parsed or rendered. The first error ends the rendering.
-/

namespace Docpress

/-- A failure of parsing or rendering. -/
inductive RenderError where
  | highlight (error : HighlightError)
  | raggedTable (row expected found : Nat)
  /-- A renderer refused a node. -/
  | renderer (nodeType message : String)
  | nestingTooDeep (limit : Nat)
  deriving Repr, DecidableEq

/-- The text of a rendering error. -/
def RenderError.message : RenderError → String
  | .highlight error => "Code highlighting failed: " ++ error.message
  | .raggedTable row expected found =>
    "Table row " ++ toString row ++ " has " ++ toString found ++ " cells, expected "
      ++ toString expected
  | .renderer nodeType message => "Renderer for '" ++ nodeType ++ "' failed: " ++ message
  | .nestingTooDeep limit =>
    "Document is nested more than " ++ toString limit ++ " levels deep"

end Docpress
