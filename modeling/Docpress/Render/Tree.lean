import Docpress.Render.Registry

/-!
The rendering of document trees. The headings of a tree get their identifiers in document order
before anything is rendered; every node is then rendered after what is nested in it.
-/

namespace Docpress

/-- A heading of a document. -/
structure Header where
  /-- Its text, without markup and without blanks at the ends. -/
  text : String
  level : Nat
  id : String
  deriving Repr, DecidableEq, Inhabited

/-- The level of a heading, whatever number that is. -/
def Node.headingLevel? : Node → Option Nat
  | .plain (.heading level) _ => some level
  | _ => none

/-- The level and the text of every heading of a tree, in document order, cells included. -/
def Node.headings (tree : Node) : List (Nat × String) :=
  tree.descendants.filterMap fun node => node.headingLevel?.map (·, node.textContent)

/-- The identifiers of the headings of a tree, in document order. -/
def headingIds (options : RenderOptions) (tree : Node) : List String :=
  SlugTracker.assignAll { policy := options.headingIds } (tree.headings.map Prod.snd)

/-- The headings of a tree, in document order. -/
def headers (options : RenderOptions) (tree : Node) : List Header :=
  List.zipWith (fun heading id => ⟨String.ofList (Text.trim heading.2.toList), heading.1, id⟩)
    tree.headings (headingIds options tree)

/-- The title of a document: the text of its first heading of level 1. -/
def title (headers : List Header) : Option String :=
  (headers.find? (·.level == 1)).map (·.text)

/-- The identifier for a node out of those that are left for the headings from it on, and those left
after it.
-/
def takeAnchor (kind : Kind) (ids : List String) : Option String × List String :=
  match kind, ids with
  | .heading _, id :: rest => (some id, rest)
  | _, ids => (none, ids)

/-- The identifiers taken off a list, given those that are left of it. -/
def takenIds (ids rest : List String) : List String :=
  ids.take (ids.length - rest.length)

/-- Renders a node by its type. -/
def dispatch (registry : Registry) (cx : RenderContext) (props : Props)
    : Except RenderError Markup :=
  match registry.renderer? props.node.type with
  | some renderer => renderer props cx
  | none => .ok (plainMarkup props)

mutual

/-- Renders a node after its children and its cells. The identifiers of the headings from the node
on go in, and those of the headings behind it come out.
-/
def renderNode (registry : Registry) (cx : RenderContext) (node : Node) (ids : List String)
    : Except RenderError (Markup × List String) :=
  match node with
  | .plain kind children => do
    let (anchor, ids) := takeAnchor kind ids
    let (rendered, rest) ← renderList registry cx children ids
    let markup ← dispatch registry cx
      { node := .plain kind children, children := rendered, anchor := anchor,
        nestedIds := takenIds ids rest }
    return (markup, rest)
  | .table children headers rows => do
    let (rendered, rest) ← renderList registry cx children ids
    let (renderedHeaders, rest) ← renderList registry cx headers rest
    let (renderedRows, rest) ← renderRows registry cx rows rest
    let markup ← dispatch registry cx
      { node := .table children headers rows, children := rendered,
        table := some ⟨renderedHeaders, renderedRows⟩, nestedIds := takenIds ids rest }
    return (markup, rest)

/-- Renders nodes one after another. -/
def renderList (registry : Registry) (cx : RenderContext) (nodes : List Node) (ids : List String)
    : Except RenderError (List Markup × List String) :=
  match nodes with
  | [] => .ok ([], ids)
  | node :: rest => do
    let (markup, ids) ← renderNode registry cx node ids
    let (markups, ids) ← renderList registry cx rest ids
    return (markup :: markups, ids)

/-- Renders the cells of rows, row by row. -/
def renderRows (registry : Registry) (cx : RenderContext) (rows : List (List Node))
    (ids : List String)
    : Except RenderError (List (List Markup) × List String) :=
  match rows with
  | [] => .ok ([], ids)
  | row :: rest => do
    let (markups, ids) ← renderList registry cx row ids
    let (rows, ids) ← renderRows registry cx rest ids
    return (markups :: rows, ids)

end

/-- A rendered document. -/
structure RenderedDocument where
  tree : Markup
  /-- Its headings, in document order. -/
  headers : List Header
  /-- The text of its first heading of level 1. -/
  title : Option String
  deriving Repr, Inhabited

/-- Renders a document tree. A tree that nests too deep is refused before anything else. -/
def renderTree (cx : RenderContext) (overrides : Option Overrides) (tree : Node)
    : Except RenderError RenderedDocument := do
  if Node.maxNesting < tree.depth then
    throw (.nestingTooDeep Node.maxNesting)
  let (markup, _) ←
    renderNode (Registry.build overrides) cx tree (headingIds cx.options tree)
  let headers := headers cx.options tree
  return ⟨markup, headers, title headers⟩

end Docpress
