import Docpress.Markup

/-!
Links. The target alone decides how a link is rendered: paths are followed by the surrounding site,
anchors stay on the page, and all else opens in a new browsing context.
-/

namespace Docpress

/-- How a link target is followed. -/
inductive LinkClass where
  | internalPath
  | inPageAnchor
  | external
  deriving Repr, DecidableEq, Inhabited

namespace Link

/-- The class of a link target: it goes by the first character. -/
def classify : Option String → LinkClass
  | none => .external
  | some href =>
    match href.toList with
    | '/' :: _ => .internalPath
    | '#' :: _ => .inPageAnchor
    | _ => .external

/-- The `rel` value of every external link. -/
def externalRel : String := "noopener noreferrer"

/-- The attributes of a link: its target, the given attributes over it, and over both those that
every external link has.
-/
def attributes (href : Option String) (attrs : Attributes) : Attributes :=
  let target : Attributes := match href with
    | some href => Attributes.empty.set "href" href
    | none => .empty
  let merged := target.merge attrs
  match classify href with
  | .external => (merged.set "target" "_blank").set "rel" externalRel
  | .internalPath | .inPageAnchor => merged

/-- The tag of a link. -/
def tag (href : Option String) : Tag :=
  match classify href with
  | .internalPath => .navLink
  | .inPageAnchor | .external => .html "a"

/-- The element of a link. -/
def toMarkup (href : Option String) (attrs : Attributes) (children : List Markup) : Markup :=
  .element (tag href) (attributes href attrs) children

end Link

end Docpress
