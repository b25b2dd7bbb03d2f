import Docpress.Proofs.Attributes
import Docpress.Proofs.Html.RoundTrip
import Docpress.Proofs.Link.AuthorAttributes
import Docpress.Proofs.Node.Parsed
import Docpress.Proofs.Rendering.Visible

/-!
The links of rendered documents. Every element that is written as a link, the anchors of headings and
the links in cells included, is of one of three classes: it leads to a path of the site, to an anchor
on the page, or elsewhere, and then it opens in a new browsing context without an opener.
-/

namespace Docpress

/-- Whether there is a target that starts with a character. -/
def Link.StartsWith (href : Option String) (first : Char) : Prop :=
  ∃ target, href = some target ∧ target.toList.head? = some first

/-- An element of an output tree that is written as a link. -/
structure LinkElement where
  tag : Tag
  attrs : Attributes

namespace LinkElement

/-- The attributes as they are written, with the one that marks a link within the site. -/
def written (link : LinkElement) : List (String × String) :=
  link.tag.marker ++ link.attrs.entries

/-- The policy for links of a class. -/
def Obeys (link : LinkElement) : LinkClass → Prop
  | .internalPath =>
    link.tag = .navLink
    ∧ Link.StartsWith (link.attrs.get? "href") '/'
    ∧ link.attrs.get? "target" = none
    ∧ link.attrs.get? "rel" = none
  | .inPageAnchor =>
    link.tag = .html "a"
    ∧ Link.StartsWith (link.attrs.get? "href") '#'
    ∧ link.attrs.get? "target" = none
    ∧ link.attrs.get? "rel" = none
  | .external =>
    link.tag = .html "a"
    ∧ ¬Link.StartsWith (link.attrs.get? "href") '/'
    ∧ ¬Link.StartsWith (link.attrs.get? "href") '#'
    ∧ link.attrs.get? "target" = some "_blank"
    ∧ link.attrs.get? "rel" = some "noopener noreferrer"

/-- No link is of two classes. -/
theorem Obeys.unique {link : LinkElement} {one two : LinkClass} (obeys : link.Obeys one)
    (obeys' : link.Obeys two)
    : one = two := by
  cases one <;> cases two <;> simp_all [Obeys]

end LinkElement

namespace Markup

/-- The link that a node of an output tree is. -/
def ownLink : Markup → List LinkElement
  | .element tag attrs _ => if tag.name = "a" then [⟨tag, attrs⟩] else []
  | _ => []

/-- The elements of an output tree that are written as links, in document order. -/
def links (markup : Markup) : List LinkElement :=
  markup.collect ownLink

end Markup

-----------------------------------------------------------------------------------------
-- Links come from links and from headings
-----------------------------------------------------------------------------------------

/-- The anchor of a heading as a link. -/
def anchorElement (id : String) : LinkElement :=
  ⟨.html "a", (Attributes.empty.set "href" ("#" ++ id)).set "class" Renderer.anchorClass⟩

/-- What a node contributes to the links of the output. -/
def linkContribution (id : String) : Kind → List LinkElement
  | .heading level => if (NodeType.heading? level).isSome then [anchorElement id] else []
  | .link href title attrs => [⟨Link.tag href, Shell.linkAttributes href title attrs⟩]
  | _ => []

/-- An element that is no link gives only the links that are in it. -/
theorem collect_links_of_other {name : String} (other : name ≠ "a") (attrs : Attributes)
    (children : List Markup)
    : Markup.collect Markup.ownLink (.element (.html name) attrs children)
      = Markup.collectAll Markup.ownLink children := by
  rw [Markup.collect_element, Markup.ownLink, Tag.name, if_neg other, List.nil_append]

/-- A link gives itself, and then the links that are in it. -/
theorem collect_links_of_link {tag : Tag} (link : tag.name = "a") (attrs : Attributes)
    (children : List Markup)
    : Markup.collect Markup.ownLink (.element tag attrs children)
      = ⟨tag, attrs⟩ :: Markup.collectAll Markup.ownLink children := by
  rw [Markup.collect_element, Markup.ownLink, if_pos link, List.singleton_append]

/-- No heading has the name of links. -/
theorem headingName_ne (level : Nat) : "h" ++ toString level ≠ "a" := by
  intro same
  have first := congrArg (·.toList.head?) same
  simp at first

/-- A link has the name of links, whether or not it is a navigation link. -/
theorem Link.name_tag (href : Option String) : (Link.tag href).name = "a" := by
  unfold Link.tag
  cases Link.classify href <;> rfl

/-- The links in the markup are read off the tree: they come of links and of the anchors of headings. -/
theorem reads_links (cx : RenderContext) : Reads cx Markup.ownLink linkContribution := by
  apply reads_of_headings_and_links
  · intro markup bare
    cases markup with
    | element tag attrs children => cases bare
    | _ => rfl
  · intro name listed attrs children
    have other : name ≠ "a" := by
      rintro rfl
      revert listed
      decide
    exact if_neg other
  · intro id level children
    rw [Shell.heading, linkContribution]
    split
    · rw [Shell.fill, List.singleton_append, collect_links_of_other (headingName_ne level),
        Markup.collectAll_cons, Shell.headingAnchor, Markup.elem, collect_links_of_link rfl]
      rfl
    · exact collect_links_of_other (headingName_ne level) _ _
  · intro id href title attrs children
    exact collect_links_of_link (Link.name_tag href) _ _
  · intro id kind notHeading notLink
    cases kind with
    | heading level => exact absurd rfl (notHeading level)
    | link href title attrs => exact absurd rfl (notLink href title attrs)
    | _ => rfl

-----------------------------------------------------------------------------------------
-- Links of documents have no attributes of their authors'
-----------------------------------------------------------------------------------------

namespace Node

/-- Whether a node, if it is a link, has a target and a title only. -/
def BareLink : Node → Prop
  | .plain (.link _ _ attrs) _ => attrs = .empty
  | _ => True

/-- Conversion makes links without other attributes. -/
theorem bareLinks_ofBlocks {read : BlockReader} {options : RenderOptions}
    {blocks : List (Markdown.Block (List Markdown.Inline))} {tree : Node}
    (converted : ofBlocks read options blocks = .ok tree)
    : ∀ below ∈ tree.preorder, below.BareLink := by
  intro below member
  cases below with
  | table children headers rows => trivial
  | plain kind children =>
      have made := isParsed_ofBlocks converted kind children member
      cases kind with
      | link href title attrs => exact Attributes.eq_empty_of_isEmpty made
      | _ => trivial

end Node

-----------------------------------------------------------------------------------------
-- What is made of links and headings obeys the policy
-----------------------------------------------------------------------------------------

namespace Link

/-- The class of a target goes by its first character. -/
theorem classify_spec (href : Option String)
    : match classify href with
      | .internalPath => StartsWith href '/'
      | .inPageAnchor => StartsWith href '#'
      | .external => ¬StartsWith href '/' ∧ ¬StartsWith href '#' := by
  cases href with
  | none => simp [classify, StartsWith]
  | some target =>
      cases chars : target.toList with
      | nil => simp [classify, StartsWith, chars]
      | cons first rest =>
          by_cases path : first = '/'
          · simp [classify, StartsWith, chars, path]
          · by_cases anchor : first = '#'
            · simp [classify, StartsWith, chars, anchor]
            · have other : classify (some target) = .external := by simp [classify, chars, path, anchor]
              simp [other, StartsWith, chars, path, anchor]

/-- The attributes of a link without a title that has none of its author's. -/
theorem get?_attributes (href : Option String) (key : String)
    : (attributes href .empty).get? key
      = if classify href = .external ∧ key = "rel" then some externalRel
        else if classify href = .external ∧ key = "target" then some "_blank"
        else if key = "href" then href
        else none :=
  get?_attributes_author href .empty key

/-- A title sets no other attribute. -/
theorem get?_linkAttributes {key : String} (other : key ≠ "title") (href title : Option String)
    : (Shell.linkAttributes href title .empty).get? key
      = if classify href = .external ∧ key = "rel" then some externalRel
        else if classify href = .external ∧ key = "target" then some "_blank"
        else if key = "href" then href
        else none := by
  rw [← get?_attributes]
  cases title with
  | none => rfl
  | some title => exact Attributes.get?_setDefault_of_ne _ other _

end Link

namespace LinkElement

/-- The keys of a link are distinct even as they are written, unless it has a mark of its own. -/
theorem nodup_written {link : LinkElement} (unmarked : link.attrs.get? "data-nav" = none)
    : (link.written.map Prod.fst).Nodup := by
  have absent := (Attributes.get?_eq_none_iff _ _).mp unmarked
  rw [written]
  cases link.tag with
  | html name => exact link.attrs.distinct
  | navLink => exact List.nodup_cons.mpr ⟨absent, link.attrs.distinct⟩

/-- A link that has no attributes of its author's obeys the policy for its target. -/
theorem obeys_classify (href title : Option String)
    : Obeys ⟨Link.tag href, Shell.linkAttributes href title .empty⟩ (Link.classify href) := by
  have spec := Link.classify_spec href
  have leads := Link.get?_linkAttributes (show "href" ≠ "title" by decide) href title
  have opens := Link.get?_linkAttributes (show "target" ≠ "title" by decide) href title
  have rel := Link.get?_linkAttributes (show "rel" ≠ "title" by decide) href title
  cases known : Link.classify href <;> simp only [known] at spec leads opens rel <;>
    simp_all [Obeys, Link.tag, Link.externalRel]

/-- A link's attributes do not say by themselves that the site follows it. -/
theorem unmarked_linkAttributes (href title : Option String)
    : (Shell.linkAttributes href title .empty).get? "data-nav" = none := by
  rw [Link.get?_linkAttributes (by decide)]
  simp

/-- The anchor of a heading has a class and an address, and no other attributes. -/
theorem get?_anchorElement (id key : String)
    : (anchorElement id).attrs.get? key
      = if key = "class" then some Renderer.anchorClass
        else if key = "href" then some ("#" ++ id)
        else none := by
  rw [anchorElement, Attributes.get?_set, Attributes.get?_set]
  rfl

/-- The anchor of a heading obeys the rules of addresses in the page. -/
theorem obeys_anchorElement (id : String) : (anchorElement id).Obeys .inPageAnchor := by
  simp [Obeys, get?_anchorElement, Link.StartsWith]
  rfl

/-- What headings and links contribute obeys the policy of some class and bears no mark. -/
theorem obeys_of_mem_contribution {id : String} {kind : Kind} {children : List Node}
    (bare : Node.BareLink (.plain kind children)) {link : LinkElement}
    (member : link ∈ linkContribution id kind)
    : (∃ kind, link.Obeys kind) ∧ link.attrs.get? "data-nav" = none := by
  cases kind with
  | heading level =>
      rw [linkContribution] at member
      split at member
      · cases List.mem_singleton.mp member
        exact ⟨⟨_, obeys_anchorElement id⟩, by simp [get?_anchorElement]⟩
      · cases member
  | link href title attrs =>
      cases bare
      cases List.mem_singleton.mp member
      exact ⟨⟨_, obeys_classify href title⟩, unmarked_linkAttributes href title⟩
  | _ => cases member

end LinkElement

/-- Every link of a document that is read from Markdown and rendered without overrides, wherever it
stands, obeys the policy of exactly one class, and no two of its attributes have one key, the mark of
a link within the site included.
-/
theorem links_obey_policy {read : Node.BlockReader} {options : RenderOptions}
    {blocks : List (Markdown.Block (List Markdown.Inline))} {tree : Node}
    (converted : Node.ofBlocks read options blocks = .ok tree) {cx : RenderContext}
    {document : RenderedDocument} (rendered : renderTree cx none tree = .ok document)
    : ∀ link ∈ document.tree.links,
        (∃! kind, link.Obeys kind) ∧ (link.written.map Prod.fst).Nodup := by
  obtain ⟨_, out, rest, here, rfl⟩ := renderTree_eq_ok_iff.mp rendered
  intro link member
  obtain ⟨id, kind, children, below, contributed⟩ :=
    exists_of_mem_collect (reads_links cx) here member
  have bare := Node.bareLinks_ofBlocks converted _ below
  obtain ⟨⟨known, obeys⟩, unmarked⟩ := LinkElement.obeys_of_mem_contribution bare contributed
  exact ⟨⟨known, obeys, fun other also => also.unique obeys⟩, LinkElement.nodup_written unmarked⟩

/-- Links of all classes: in text with a title, without a target, in a heading and in the cells of two
tables.
-/
def linkSample : List (Markdown.Block (List Markdown.Inline)) :=
  [.heading 2 [.text "A ", .link "//b" "" [.text "c"]],
    .paragraph [.link "https://d" "e" [.text "f"], .link "" "" []],
    .table [[.link "#g" "h" [.text "i"]]] [],
    .code "table" "\x7b\"headers\": [\"j\"]\x7d"]

/-- The reader of cells for the sample: every text links to itself. -/
def linkReader : Node.BlockReader := fun text => [.paragraph [.link text "" [.text text]]]

/-- The attributes of the links in the sample, anchors of headings included, in document order. -/
def linkSampleWritten : List (List (String × String)) :=
  let opener := [("target", "_blank"), ("rel", "noopener noreferrer")]
  [[("href", "#a-c"), ("class", "anchor")],
    [("data-nav", "internal"), ("href", "//b")],
    [("href", "https://d")] ++ opener ++ [("title", "e")],
    opener,
    [("href", "#g"), ("title", "h")],
    [("href", "j")] ++ opener]

/-- Links of all sorts are found in the sample, each obeying the rules of one class. -/
theorem links_of_linkSample
    : ∃ tree document,
        Node.ofBlocks linkReader {} linkSample = .ok tree
        ∧ renderTree ⟨{}, none⟩ none tree = .ok document
        ∧ document.tree.links.map (·.written) = linkSampleWritten
        ∧ ∀ link ∈ document.tree.links,
            (∃! kind, link.Obeys kind) ∧ (link.written.map Prod.fst).Nodup := by
  have written
      : (Node.ofBlocks linkReader {} linkSample >>= renderTree ⟨{}, none⟩ none).toOption.map
          (·.tree.links.map (·.written))
        = some linkSampleWritten := by
    decide +kernel
  obtain ⟨document, success, listed⟩ := Fallible.exists_of_toOption_map written
  obtain ⟨tree, converted, rendered⟩ := Fallible.bind_eq_ok_iff.mp success
  exact ⟨tree, document, converted, rendered, listed, links_obey_policy converted rendered⟩

end Docpress
