import Docpress.Proofs.Headings.Elements
import Docpress.Proofs.Node.Parsed
import Docpress.Proofs.Rendering.Links
import Docpress.Proofs.Rendering.Overrides

/-!
The standard renderers and the plain elements. Where code is not highlighted and tables are taken as they
are, a standard renderer gives the plain element of a node with adornments: the identifier and the
anchor of a heading, the class of an image, and the way a link opens. Without them the output of a
document is what plain renderers make of it.
-/

namespace Docpress

open Fallible

-----------------------------------------------------------------------------------------
-- Output without adornments
-----------------------------------------------------------------------------------------

namespace Markup

/-- An element without what standard renderers add: in a heading the identifier and what stands first,
in an image the class, and in a link the way it opens.
-/
def unadornedElement (tag : Tag) (attrs : Attributes) (children : List Markup) : Markup :=
  if (Html.headingLevel? tag.name).isSome then
    .element tag (attrs.erase "id") (children.drop 1)
  else if tag.name = "img" then
    .element tag (attrs.erase "class") children
  else if tag.name = "a" then
    .element (.html "a") ((attrs.erase "target").erase "rel") children
  else
    .element tag attrs children

mutual

/-- An output tree without what standard renderers add to its elements. -/
def unadorned : Markup → Markup
  | .element tag attrs children => unadornedElement tag attrs (unadornedAll children)
  | .text value => .text value
  | .trusted markup => .trusted markup
  | .fragment children => .fragment (unadornedAll children)

/-- A list of output trees without what standard renderers add to their elements. -/
def unadornedAll : List Markup → List Markup
  | [] => []
  | markup :: rest => unadorned markup :: unadornedAll rest

end

/-- Trees in a row are unadorned one by one. -/
theorem unadornedAll_eq_map (markups : List Markup)
    : unadornedAll markups = markups.map unadorned := by
  induction markups with
  | nil => rfl
  | cons markup rest ih => rw [unadornedAll, ih, List.map_cons]

/-- The names of the elements that standard renderers add something to, apart from headings. -/
def adornedNames : List String := ["img", "a"]

/-- An element that is neither adorned nor a heading stays as it is. -/
theorem unadornedElement_of_other {name : String} (notHeading : Html.headingLevel? name = none)
    (other : name ∉ adornedNames) (attrs : Attributes) (children : List Markup)
    : unadornedElement (.html name) attrs children = .elem name attrs children := by
  simp only [adornedNames, List.mem_cons, List.not_mem_nil, or_false, not_or] at other
  simp [unadornedElement, Tag.name, notHeading, other, elem]

/-- An adorned heading loses its identifier and the anchor in front of its text. -/
theorem unadornedElement_heading {level : Nat} (valid : isHeadingLevel level = true)
    (attrs : Attributes) (children : List Markup)
    : unadornedElement (.html ("h" ++ toString level)) attrs children
      = .elem ("h" ++ toString level) (attrs.erase "id") (children.drop 1) := by
  rw [unadornedElement, Tag.name, headingLevel?_of_level, if_pos valid,
    if_pos Option.isSome_some, elem]

/-- An adorned link loses its target and its relation, and is an ordinary link if it was a navigation
link.
-/
theorem unadornedElement_link {tag : Tag} (link : tag.name = "a") (attrs : Attributes)
    (children : List Markup)
    : unadornedElement tag attrs children
      = .elem "a" ((attrs.erase "target").erase "rel") children := by
  have notHeading : Html.headingLevel? "a" = none := rfl
  simp [unadornedElement, link, notHeading, elem]

/-- A wrapper that is neither adorned nor a heading stays, around what is unadorned in it. -/
theorem unadorned_wrap {name : String} (notHeading : Html.headingLevel? name = none)
    (other : name ∉ adornedNames) (children : List Markup)
    : unadorned (.wrap name children) = .wrap name (unadornedAll children) :=
  unadornedElement_of_other notHeading other _ _

end Markup

/-- A rendered document without what standard renderers add to its elements. -/
def RenderedDocument.unadorned (document : RenderedDocument) : RenderedDocument :=
  { document with tree := document.tree.unadorned }

-----------------------------------------------------------------------------------------
-- Single nodes
-----------------------------------------------------------------------------------------

/-- Whether a node bears no attributes of its author's, if it is an image or a link. -/
def Kind.unstyled : Kind → Bool
  | .image _ _ _ attrs | .link _ _ attrs => attrs.isEmpty
  | _ => true

/-- The attributes of an adorned image are the plain ones with a class. -/
theorem erase_imageAttributes (src alt : String) (title : Option String)
    : (Shell.imageAttributes src alt title .empty).erase "class"
      = PlainElement.imageAttributes src alt title .empty := by
  have source
      : (((Attributes.empty.set "class" Renderer.imageClass).set "src" src).set "alt" alt).erase
          "class"
        = (Attributes.empty.set "src" src).set "alt" alt := by
    rw [Attributes.erase_set_of_ne (by decide), Attributes.erase_set_of_ne (by decide),
      Attributes.erase_set_self, Attributes.erase_empty]
  cases title with
  | none => exact source
  | some title =>
      exact (Attributes.erase_set_of_ne (by decide) _ title).trans
        (congrArg (·.set "title" title) source)

/-- The target of a link is all that is left of what goes by its target. -/
theorem erase_link_attributes (href : Option String)
    : ((Link.attributes href .empty).erase "target").erase "rel"
      = PlainElement.linkAttributes href none .empty := by
  have target
      : ∀ attrs, attrs = PlainElement.linkAttributes href none .empty
        → (attrs.erase "target").erase "rel" = attrs := by
    rintro _ rfl
    cases href with
    | none => rfl
    | some href =>
        change (((Attributes.empty.set "href" href).erase "target").erase "rel") = _
        rw [Attributes.erase_set_of_ne (by decide), Attributes.erase_set_of_ne (by decide),
          Attributes.erase_empty, Attributes.erase_empty]
        rfl
  unfold Link.attributes
  cases Link.classify href with
  | internalPath => exact target _ rfl
  | inPageAnchor => exact target _ rfl
  | external =>
      simp only
      rw [Attributes.erase_set_of_ne (by decide), Attributes.erase_set_self,
        Attributes.erase_set_self]
      exact target _ rfl

/-- The attributes of an adorned link are the plain ones with a target and a relation, where it has them.
-/
theorem erase_linkAttributes (href title : Option String)
    : ((Shell.linkAttributes href title .empty).erase "target").erase "rel"
      = PlainElement.linkAttributes href title .empty := by
  cases title with
  | none => exact erase_link_attributes href
  | some title =>
      have untitled : (PlainElement.linkAttributes href none .empty).get? "title" = none := by
        cases href with
        | none => rfl
        | some href => exact Attributes.get?_set .empty "href" href "title"
      rw [Shell.linkAttributes, Attributes.erase_setDefault_of_ne (by decide),
        Attributes.erase_setDefault_of_ne (by decide), erase_link_attributes,
        Attributes.setDefault_eq_set untitled]
      rfl

/-- An adorned heading is the plain one without its adornments, by cases on whether its level is one to
six.
-/
theorem unadorned_heading (id : String) (level : Nat) (children : List Markup)
    : ((Shell.heading id level).fill children).unadorned
      = .wrap ("h" ++ toString level) (Markup.unadornedAll children) := by
  have known := headingLevel?_of_level level
  rw [Shell.heading, heading?_isSome]
  cases valid : isHeadingLevel level with
  | true =>
      rw [if_pos rfl, Shell.fill, Markup.unadorned, Markup.unadornedElement_heading valid,
        Attributes.erase_set_self]
      rfl
  | false =>
      rw [valid, if_neg Bool.false_ne_true] at known
      have other : "h" ++ toString level ∉ Markup.adornedNames := by
        intro listed
        have first : ∀ name ∈ Markup.adornedNames, name.toList.head? ≠ some 'h' := by decide
        exact first _ listed (by simp)
      rw [if_neg Bool.false_ne_true]
      exact Markup.unadorned_wrap known other children

/-- An adorned link is the plain one without its adornments. -/
theorem unadorned_link (href title : Option String) (children : List Markup)
    : (Markup.element (Link.tag href) (Shell.linkAttributes href title .empty) children).unadorned
      = .elem "a" (PlainElement.linkAttributes href title .empty)
          (Markup.unadornedAll children) := by
  rw [Markup.unadorned, Markup.unadornedElement_link (Link.name_tag href), erase_linkAttributes]

/-- Standard output without its adornments is plain output, kind by kind. -/
theorem unadorned_fill {cx : RenderContext} (plainCode : cx.options.highlightCode = false)
    {kind : Kind} (unstyled : kind.unstyled = true) (id : String) (children : List Markup)
    : (Shell.ofKind cx id kind).map (fun shell => (shell.fill children).unadorned)
      = .ok (PlainElement.ofKind kind (Markup.unadornedAll children)) := by
  cases kind with
  | heading level => exact congrArg Except.ok (unadorned_heading id level children)
  | link href title attrs =>
      cases Attributes.eq_empty_of_isEmpty unstyled
      exact congrArg Except.ok (unadorned_link href title children)
  | image src alt title attrs =>
      cases Attributes.eq_empty_of_isEmpty unstyled
      exact congrArg (fun attrs => Except.ok (Markup.elem "img" attrs []))
        (erase_imageAttributes src alt title)
  | code literal language attrs =>
      have content : Renderer.codeContent cx literal language = .ok (.text literal) :=
        codeContent_eq_ok_iff.mpr (Or.inl ⟨plainCode, rfl⟩)
      rw [Shell.ofKind, content]
      rfl
  | list ordered start => cases ordered <;> rfl
  | _ => rfl

/-- The frame of a table bears no adornments. -/
theorem Table.unadorned_toMarkup (table : Table Markup)
    : table.toMarkup.unadorned = (table.map Markup.unadorned).toMarkup := by
  have framed {name : String} (listed : name ∈ frameNames) (children : List Markup)
      : (Markup.wrap name children).unadorned = .wrap name (children.map Markup.unadorned) := by
    rw [← Markup.unadornedAll_eq_map]
    apply Markup.unadorned_wrap
    · revert name
      decide
    · revert name
      decide
  have row {cellName : String} (listed : cellName ∈ frameNames) (cells : List Markup)
      : (rowMarkup cellName cells).unadorned
        = rowMarkup cellName (cells.map Markup.unadorned) := by
    rw [rowMarkup, framed (by simp [frameNames]), rowMarkup, List.map_map, List.map_map]
    exact congrArg (Markup.wrap "tr") (List.map_congr_left fun cell _ => framed listed [cell])
  have rows
      : (table.rows.map (rowMarkup "td")).map Markup.unadorned
        = (table.rows.map (·.map Markup.unadorned)).map (rowMarkup "td") := by
    rw [List.map_map, List.map_map]
    exact List.map_congr_left fun cells _ => row (by simp [frameNames]) cells
  rw [toMarkup, framed (by simp [frameNames]), List.map_cons, List.map_singleton,
    framed (by simp [frameNames]), framed (by simp [frameNames]), rows, List.map_singleton,
    row (by simp [frameNames])]
  rfl

-----------------------------------------------------------------------------------------
-- Documents
-----------------------------------------------------------------------------------------

namespace Overrides

/-- The tags of the nodes that have standard renderers. -/
def standardTags : List String :=
  ["h1", "h2", "h3", "h4", "h5", "h6", "img", "a", "code", "table"]

/-- The insertions that give every named type its plain output. -/
def plainFor (names : List TypeName) : List Insertion :=
  names.map fun name => ⟨name, Renderer.plain⟩

/-- Once the plain renderer is inserted for some names, it is found for the types of these names and no
others, by induction on the names.
-/
theorem lastInserted?_plainFor (names : List TypeName) (type : NodeType)
    : lastInserted? (plainFor names) type
      = if type ∈ names.map TypeName.resolve then some Renderer.plain else none := by
  induction names using List.reverseRecOn with
  | nil => rfl
  | append_singleton names last ih =>
      have series : plainFor (names ++ [last]) = plainFor names ++ [⟨last, Renderer.plain⟩] :=
        List.map_append
      rw [series, lastInserted?_concat, ih]
      by_cases here : type = last.resolve
      · simp [here]
      · simp [here]

end Overrides

/-- The standard registry has renderers for the types of the standard tags only. -/
theorem Registry.mem_standardTags {type : NodeType} {renderer : Renderer}
    (known : standard.renderer? type = some renderer)
    : type ∈ Overrides.standardTags.map NodeType.ofName := by
  cases type with
  | h1 | h2 | h3 | h4 | h5 | h6 | image | link | code | table => decide
  | _ => cases known

/-- A registry under which every node gets its plain output. -/
def Registry.AllPlain (registry : Registry) : Prop :=
  ∀ cx props, dispatch registry cx props = .ok (plainMarkup props)

/-- All output is plain if every type with a standard renderer is overridden by plain output. -/
theorem Registry.allPlain_build {names : List TypeName} {overrides : Overrides}
    (built : Overrides.BuiltBy (Overrides.plainFor names) overrides)
    (all : ∀ tag ∈ Overrides.standardTags, .ofName tag ∈ names.map TypeName.resolve)
    : (build (some overrides)).AllPlain := by
  intro cx props
  have chosen := renderer?_build (.some built) props.node.type
  rw [Option.bind_some, Overrides.lastInserted?_plainFor] at chosen
  rw [dispatch, chosen]
  split
  next renderer found =>
    split at found
    · cases found
      rfl
    next unnamed =>
      obtain ⟨tag, listed, same⟩ := List.mem_map.mp (mem_standardTags found)
      exact absurd (same ▸ all tag listed) unnamed
  next => rfl

section

variable {plain : Registry} {cx : RenderContext}

/-- For a node without cells the standard renderers and the plain ones make the same of its children, up
to adornments.
-/
theorem unadorned_dispatch_plain (allPlain : plain.AllPlain)
    (plainCode : cx.options.highlightCode = false) {kind : Kind}
    (unstyled : kind.unstyled = true) (nodes : List Node) (children : List Markup)
    (anchor : Option String) (nestedIds : List String)
    : (dispatch .standard cx ⟨.plain kind nodes, children, none, anchor, nestedIds⟩).map
          Markup.unadorned
      = dispatch plain cx
          ⟨.plain kind nodes, children.map Markup.unadorned, none, anchor, nestedIds⟩ := by
  have filled := unadorned_fill plainCode unstyled
    (anchor.getD (slugify (Node.textContent (.plain kind nodes)))) children
  rw [allPlain, dispatch_plain, map_map, ← Markup.unadornedAll_eq_map]
  exact filled

/-- For a table the standard renderers and the plain ones make the same of its cells, up to adornments.
-/
theorem unadorned_dispatch_table (allPlain : plain.AllPlain)
    (lenient : cx.options.tableMode = .lenient) (children headers : List Node)
    (rows : List (List Node)) (rendered : List Markup) (cells : Table Markup)
    (nestedIds : List String)
    : (dispatch .standard cx
          ⟨.table children headers rows, rendered, some cells, none, nestedIds⟩).map
          Markup.unadorned
      = dispatch plain cx
          ⟨.table children headers rows, rendered.map Markup.unadorned,
            some (cells.map Markup.unadorned), none, nestedIds⟩ := by
  rw [allPlain, dispatch_table, lenient, Renderer.checkShape]
  exact congrArg Except.ok (Table.unadorned_toMarkup cells)

mutual

/-- The standard rendering of a node, without its adornments, is its plain rendering, by induction on
the tree: the parts take the same identifiers, and what is made of them differs in adornments only.
-/
theorem unadorned_renderNode (allPlain : plain.AllPlain)
    (plainCode : cx.options.highlightCode = false) (lenient : cx.options.tableMode = .lenient)
    {node : Node}
    (unstyled : ∀ kind children, .plain kind children ∈ node.preorder → kind.unstyled = true)
    (ids : List String)
    : (renderNode .standard cx node ids).map (Prod.map Markup.unadorned id)
      = renderNode plain cx node ids := by
  cases node with
  | plain kind children =>
      have own := unstyled kind children List.mem_cons_self
      have below := unadorned_renderList allPlain plainCode lenient fun kind children member =>
        unstyled kind children (List.mem_cons_of_mem _ member)
      rw [renderNode, renderNode]
      exact bind_map_congr (below _) fun (rendered, rest) =>
        bind_map_congr (unadorned_dispatch_plain allPlain plainCode own _ rendered _ _) fun _ => rfl
  | table children headers rows =>
      have below := unadorned_renderList allPlain plainCode lenient fun kind children member =>
        unstyled kind children (List.mem_cons_of_mem _ (List.mem_append_left _ member))
      have heads := unadorned_renderList allPlain plainCode lenient fun kind children member =>
        unstyled kind children
          (List.mem_cons_of_mem _ (List.mem_append_right _ (List.mem_append_left _ member)))
      have cells := unadorned_renderRows allPlain plainCode lenient fun kind children member =>
        unstyled kind children
          (List.mem_cons_of_mem _ (List.mem_append_right _ (List.mem_append_right _ member)))
      rw [renderNode, renderNode]
      refine bind_map_congr (below ids) fun (rendered, ids) => ?_
      refine bind_map_congr (heads ids) fun (headersOut, ids) => ?_
      refine bind_map_congr (cells ids) fun (rowsOut, rest) => ?_
      refine bind_map_congr (unadorned_dispatch_table allPlain lenient _ _ _ rendered
        ⟨headersOut, rowsOut⟩ _) fun _ => rfl

/-- Nodes in a row render alike up to adornments, one node after another. -/
theorem unadorned_renderList (allPlain : plain.AllPlain)
    (plainCode : cx.options.highlightCode = false) (lenient : cx.options.tableMode = .lenient)
    {nodes : List Node}
    (unstyled
      : ∀ kind children, .plain kind children ∈ Node.preorderAll nodes → kind.unstyled = true)
    (ids : List String)
    : (renderList .standard cx nodes ids).map (Prod.map (List.map Markup.unadorned) id)
      = renderList plain cx nodes ids := by
  cases nodes with
  | nil => rfl
  | cons node rest =>
      have here := unadorned_renderNode allPlain plainCode lenient fun kind children member =>
        unstyled kind children (List.mem_append_left _ member)
      have later := unadorned_renderList allPlain plainCode lenient fun kind children member =>
        unstyled kind children (List.mem_append_right _ member)
      rw [renderList, renderList]
      exact bind_map_congr (here ids) fun (_, ids) => bind_map_congr (later ids) fun _ => rfl

/-- The rows of a table render alike up to adornments, one row after another. -/
theorem unadorned_renderRows (allPlain : plain.AllPlain)
    (plainCode : cx.options.highlightCode = false) (lenient : cx.options.tableMode = .lenient)
    {rows : List (List Node)}
    (unstyled
      : ∀ kind children, .plain kind children ∈ Node.preorderRows rows → kind.unstyled = true)
    (ids : List String)
    : (renderRows .standard cx rows ids).map (Prod.map (List.map (List.map Markup.unadorned)) id)
      = renderRows plain cx rows ids := by
  cases rows with
  | nil => rfl
  | cons row rest =>
      have here := unadorned_renderList allPlain plainCode lenient fun kind children member =>
        unstyled kind children (List.mem_append_left _ member)
      have later := unadorned_renderRows allPlain plainCode lenient fun kind children member =>
        unstyled kind children (List.mem_append_right _ member)
      rw [renderRows, renderRows]
      exact bind_map_congr (here ids) fun (_, ids) => bind_map_congr (later ids) fun _ => rfl

end

end

/-- Whatever conversion makes has no attributes of an author. -/
theorem Node.unstyled_of_isParsed {fine : Nat → Bool} {kind : Kind}
    (made : isParsed fine kind = true)
    : kind.unstyled = true := by
  cases kind with
  | image src alt title attrs =>
      simpa [isParsed, standsAlone, holdsParsed, Kind.unstyled] using made
  | link href title attrs =>
      simpa [isParsed, standsAlone, holdsParsed, Kind.unstyled] using made
  | _ => rfl

/-- Whatever the standard renderers make of a document that is read from Markdown, without what they add
to its headings, images and links, is what comes of it if all of them are overridden by plain
output, in whatever order and under whatever names; and where the one fails, so does the other.
-/
theorem standard_refines_plain {read : Node.BlockReader} {options : RenderOptions}
    {blocks : List (Markdown.Block (List Markdown.Inline))} {tree : Node}
    (converted : Node.ofBlocks read options blocks = .ok tree) {cx : RenderContext}
    (plainCode : cx.options.highlightCode = false) (lenient : cx.options.tableMode = .lenient)
    {names : List TypeName} {overrides : Overrides}
    (built : Overrides.BuiltBy (Overrides.plainFor names) overrides)
    (all : ∀ tag ∈ Overrides.standardTags, .ofName tag ∈ names.map TypeName.resolve)
    : (renderTree cx none tree).map RenderedDocument.unadorned
      = renderTree cx (some overrides) tree := by
  have rendered := unadorned_renderNode (Registry.allPlain_build built all) plainCode lenient
    (fun kind children member =>
      Node.unstyled_of_isParsed (Node.isParsed_ofBlocks converted kind children member))
    (headingIds cx.options tree)
  simp only [renderTree]
  split
  · rfl
  · exact bind_map_congr rendered fun _ => rfl

/-- An image in a link in a heading, links to all kinds of targets, and a table in which a cell holds a
heading of its own.
-/
def adornedSample : List (Markdown.Block (List Markdown.Inline)) :=
  [.heading 2 [.text "a", .link "/b" "c" [.image "d" "e" [.text "f"]]],
    .paragraph [.link "#g" "" [.code "h"], .link "https://i" "j" []],
    .code "table" "\x7b\"headers\": [\"k\"]\x7d"]

/-- The reader of cells for the sample: every text is a heading. -/
def adornedReader : Node.BlockReader := fun text => [.heading 1 [.text text]]

/-- All types with standard renderers, under other names and in another order. -/
def adornedTypes : List TypeName :=
  [.known .table, .tag "link", .tag "Image", .known .code]
    ++ NodeType.headings.map TypeName.known

/-- The sample as the standard renderers write it. -/
def standardHtml : String :=
  "<h2 id=\"a\"><a href=\"#a\" class=\"anchor\"></a>a"
    ++ "<a data-nav=\"internal\" href=\"/b\" title=\"c\">"
    ++ "<img class=\"rounded-lg\" src=\"d\" alt=\"f\" title=\"e\"></a></h2>"
    ++ "<p><a href=\"#g\"><code>h</code></a>"
    ++ "<a href=\"https://i\" target=\"_blank\" rel=\"noopener noreferrer\" title=\"j\"></a></p>"
    ++ "<table><thead><tr><th><h1 id=\"k\"><a href=\"#k\" class=\"anchor\"></a>k</h1></th></tr>"
    ++ "</thead><tbody></tbody></table>"

/-- The sample with the plain output for every type. -/
def plainHtml : String :=
  "<h2>a<a href=\"/b\" title=\"c\"><img src=\"d\" alt=\"f\" title=\"e\"></a></h2>"
    ++ "<p><a href=\"#g\"><code>h</code></a><a href=\"https://i\" title=\"j\"></a></p>"
    ++ "<table><thead><tr><th><h1>k</h1></th></tr></thead><tbody></tbody></table>"

/-- A document with adornments of all sorts is unadorned to its plain form. -/
theorem adornedSample_refines_plain
    : let cx : RenderContext := ⟨{ highlightCode := false }, none⟩
      let given := Overrides.ofInsertions (Overrides.plainFor adornedTypes)
      ∃ tree document plain,
        Node.ofBlocks adornedReader {} adornedSample = .ok tree
        ∧ renderTree cx none tree = .ok document
        ∧ renderTree cx (some given) tree = .ok plain
        ∧ document.tree.toHtml = standardHtml
        ∧ plain.tree.toHtml = plainHtml
        ∧ document.unadorned = plain := by
  intro cx given
  have standard
      : (Node.ofBlocks adornedReader {} adornedSample >>= renderTree cx none).toOption.map
          (·.tree.toHtml)
        = some standardHtml := by
    decide +kernel
  have overridden
      : (Node.ofBlocks adornedReader {} adornedSample >>= renderTree cx (some given)).toOption.map
          (·.tree.toHtml)
        = some plainHtml := by
    decide +kernel
  obtain ⟨document, success, html⟩ := exists_of_toOption_map standard
  obtain ⟨tree, converted, rendered⟩ := bind_eq_ok_iff.mp success
  obtain ⟨plain, success', html'⟩ := exists_of_toOption_map overridden
  obtain ⟨tree', converted', rendered'⟩ := bind_eq_ok_iff.mp success'
  cases converted.symm.trans converted'
  have built : Overrides.BuiltBy (Overrides.plainFor adornedTypes) given := List.Perm.refl _
  have all : ∀ tag ∈ Overrides.standardTags,
      NodeType.ofName tag ∈ adornedTypes.map TypeName.resolve := by decide
  have same : (renderTree cx none tree).map RenderedDocument.unadorned
      = renderTree cx (some given) tree :=
    standard_refines_plain converted rfl rfl built all
  rw [rendered, rendered'] at same
  exact ⟨tree, document, plain, converted, rendered, rendered', html, html', Except.ok.inj same⟩

end Docpress
