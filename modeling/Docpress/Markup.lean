import Docpress.Attributes

/-!
The output tree of a rendered document. Text is escaped when the tree is written; only trusted
markup, which the code highlighter makes, is written as it stands.
-/

namespace Docpress

/-- What an element is written as. -/
inductive Tag where
  /-- An element of the given name. -/
  | html (name : String)
  /-- A link that the surrounding site follows without loading a page. -/
  | navLink
  deriving Repr, DecidableEq

/-- The element name in written markup. -/
def Tag.name : Tag → String
  | .html name => name
  | .navLink => "a"

/-- A node of the output tree. -/
inductive Markup where
  | element (tag : Tag) (attrs : Attributes) (children : List Markup)
  /-- Text, escaped on output. -/
  | text (value : String)
  /-- Markup written verbatim. -/
  | trusted (markup : String)
  /-- Siblings without an element around them. -/
  | fragment (children : List Markup)
  deriving Repr, Inhabited

namespace Markup

/-- An element with a plain name. -/
def elem (name : String) (attrs : Attributes) (children : List Markup) : Markup :=
  .element (.html name) attrs children

/-- An element with a plain name and no attributes. -/
def wrap (name : String) (children : List Markup) : Markup :=
  .elem name .empty children

/-- The name an element is written with. -/
def elementName? : Markup → Option String
  | .element tag _ _ => some tag.name
  | _ => none

end Markup

end Docpress
