import Docpress.Link
import Docpress.Render.Plain

/-!
The standard renderers: headings with anchors, images, links by target, highlighted code and
checked tables. A node of another type gets its plain output from each of them but the first.
-/

namespace Docpress

namespace Renderer

/-- The class of the empty anchor at the start of a heading. -/
def anchorClass : String := "anchor"

/-- The class of an image. -/
def imageClass : String := "rounded-lg"

/-- A heading of a level, with its identifier and an anchor that leads to it. -/
def heading (level : Nat) : Renderer := fun props _ =>
  let id := props.headingId
  let anchor :=
    Markup.elem "a" ((Attributes.empty.set "href" ("#" ++ id)).set "class" anchorClass) []
  .ok (.elem ("h" ++ toString level) (Attributes.empty.set "id" id) (anchor :: props.children))

/-- An image with the image class, under the attributes that the author gives. -/
def image : Renderer := fun props _ =>
  match props.node with
  | .plain (.image src alt title attrs) _ =>
    let source := ((Attributes.empty.set "class" imageClass).set "src" src).set "alt" alt
    let titled := match title with
      | some title => source.set "title" title
      | none => source
    .ok (.elem "img" (titled.merge attrs) [])
  | _ => .ok (plainMarkup props)

/-- A link, with its title unless the author gives one among the attributes. -/
def link : Renderer := fun props _ =>
  match props.node with
  | .plain (.link href title attrs) _ =>
    let attrs := Link.attributes href attrs
    let attrs := match title with
      | some title => attrs.setDefault "title" title
      | none => attrs
    .ok (.element (Link.tag href) attrs props.children)
  | _ => .ok (plainMarkup props)

/-- What stands inside the element of a piece of code: trusted markup, or escaped text if code is
not to be highlighted.
-/
def codeContent (cx : RenderContext) (literal : String) (language : Option String)
    : Except RenderError Markup :=
  if cx.options.highlightCode then
    match cx.highlighting with
    | none => .error (.highlight .noHighlighter)
    | some manager =>
      match manager.highlight literal language with
      | .ok markup => .ok (.trusted markup)
      | .error error => .error (.highlight error)
  else
    .ok (.text literal)

/-- A piece of code. -/
def code : Renderer := fun props cx =>
  match props.node with
  | .plain (.code literal language attrs) _ => do
    let content ← codeContent cx literal language
    return .elem "code" attrs [content]
  | _ => .ok (plainMarkup props)

/-- Accepts a table under a mode: in strict mode no row may be shorter or longer than the headers. -/
def checkShape (mode : TableMode) (table : Table α) : Except RenderError Unit :=
  match mode with
  | .lenient => .ok ()
  | .strict =>
    match table.firstRagged? with
    | some ragged => .error (.raggedTable ragged.row table.headers.length ragged.length)
    | none => .ok ()

/-- A table. -/
def table : Renderer := fun props cx =>
  match props.table with
  | some table => do
    checkShape cx.options.tableMode table
    return table.toMarkup
  | none => .ok (plainMarkup props)

/-- The plain output of any node. -/
def plain : Renderer := fun props _ => .ok (plainMarkup props)

end Renderer

end Docpress
