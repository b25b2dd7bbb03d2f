import Docpress.Render.Renderer

/-!
The plain element of every kind of node, for the types that have no renderer.
-/

namespace Docpress

namespace PlainElement

/-- The attributes of a plain link. -/
def linkAttributes (href title : Option String) (attrs : Attributes) : Attributes :=
  let target : Attributes := match href with
    | some href => Attributes.empty.set "href" href
    | none => .empty
  let titled := match title with
    | some title => target.set "title" title
    | none => target
  titled.merge attrs

/-- The attributes of a plain image. -/
def imageAttributes (src alt : String) (title : Option String) (attrs : Attributes) : Attributes :=
  let source := (Attributes.empty.set "src" src).set "alt" alt
  let titled := match title with
    | some title => source.set "title" title
    | none => source
  titled.merge attrs

/-- The attributes of an ordered list: the number of its first item, unless that is 1. -/
def listAttributes (start : Option Nat) : Attributes :=
  match start with
  | some start => if start = 1 then .empty else Attributes.empty.set "start" (toString start)
  | none => .empty

/-- The plain output of a node that is not a table. -/
def ofKind (kind : Kind) (children : List Markup) : Markup :=
  match kind with
  | .document | .tableCell | .other _ => .fragment children
  | .paragraph => .wrap "p" children
  | .heading level => .wrap ("h" ++ toString level) children
  | .text value => .text value
  | .emphasis => .wrap "em" children
  | .strong => .wrap "strong" children
  | .strikethrough => .wrap "del" children
  | .link href title attrs => .elem "a" (linkAttributes href title attrs) children
  | .image src alt title attrs => .elem "img" (imageAttributes src alt title attrs) []
  | .code literal _ attrs => .elem "code" attrs [.text literal]
  | .pre => .wrap "pre" children
  | .blockQuote => .wrap "blockquote" children
  | .list true start => .elem "ol" (listAttributes start) children
  | .list false _ => .wrap "ul" children
  | .listItem => .wrap "li" children
  | .thematicBreak => .wrap "hr" []
  | .softBreak => .text "\n"
  | .lineBreak => .wrap "br" []
  | .html markup => .text markup

end PlainElement

/-- The plain output of a node. A table without rendered cells has none. -/
def plainMarkup (props : Props) : Markup :=
  match props.node with
  | .plain kind _ => PlainElement.ofKind kind props.children
  | .table .. =>
    match props.table with
    | some table => table.toMarkup
    | none => .fragment []

end Docpress
