import Docpress.Proofs.Attributes
import Docpress.Proofs.Markdown.HeadingLevels
import Docpress.Proofs.Rendering.Visible
import Docpress.Proofs.Slug.Tracker
import Docpress.Proofs.Text.Decimal

/-!
The heading elements of an output tree, and the entries of the list of headings that they belong to.
-/

namespace Docpress

/-- The level of the headings with an element name, if it is the name of a heading. -/
def Html.headingLevel? (name : String) : Option Nat :=
  (List.range' 1 6).find? fun level => "h" ++ toString level == name

/-- A heading element of an output tree, with the target of the anchor that it starts with. -/
structure HeadingElement where
  level : Nat
  id : Option String
  target : Option String
  deriving Repr, DecidableEq

namespace Markup

/-- The target of the plain link that stands first, if one does. -/
def leadingTarget? : List Markup → Option String
  | .element tag attrs _ :: _ => if tag = .html "a" then attrs.get? "href" else none
  | _ => none

/-- The heading that a node of an output tree is. -/
def ownHeading : Markup → List HeadingElement
  | .element tag attrs children =>
    match Html.headingLevel? tag.name with
    | some level => [⟨level, attrs.get? "id", leadingTarget? children⟩]
    | none => []
  | _ => []

/-- The heading elements of an output tree in document order. -/
def headings (markup : Markup) : List HeadingElement :=
  markup.collect ownHeading

end Markup

/-- The element that a listed heading has if it shows. Its anchor leads to itself. -/
def Header.element (header : Header) : HeadingElement :=
  ⟨header.level, some header.id, some ("#" ++ header.id)⟩

/-- For every heading of a tree, in document order, whether it shows in standard output. -/
def Node.headingVisibility (tree : Node) : List Bool :=
  tree.visibility.filterMap fun entry => entry.2.headingLevel?.map fun _ => entry.1

/-- There is an element for a heading just if its level is from one to six. -/
theorem heading?_isSome (level : Nat) : (NodeType.heading? level).isSome = isHeadingLevel level := by
  match level with
  | 0 | 1 | 2 | 3 | 4 | 5 | 6 => rfl
  | level + 7 => simp [NodeType.heading?, isHeadingLevel]

/-- Only the names for levels from 1 to 6 are those of headings. -/
theorem headingLevel?_of_level (level : Nat)
    : Html.headingLevel? ("h" ++ toString level)
      = if isHeadingLevel level then some level else none := by
  have sameName (other : Nat)
      : ("h" ++ toString other == "h" ++ toString level) = (other == level) := by
    rw [Bool.eq_iff_iff, beq_iff_eq, beq_iff_eq]
    exact (Text.append_toString_nat_injective "h").eq_iff
  simp only [Html.headingLevel?, sameName]
  match level with
  | 0 | 1 | 2 | 3 | 4 | 5 | 6 => rfl
  | level + 7 => simp [isHeadingLevel, List.range', List.find?]

/-- What a node contributes to the headings of the output. -/
def headingContribution (id : String) : Kind → List HeadingElement
  | .heading level => if isHeadingLevel level then [⟨level, some id, some ("#" ++ id)⟩] else []
  | _ => []

/-- An element that is no heading gives only the headings that are in it. -/
theorem collect_headings_of_other {name : String} (other : Html.headingLevel? name = none)
    (attrs : Attributes) (children : List Markup)
    : Markup.collect Markup.ownHeading (.element (.html name) attrs children)
      = Markup.collectAll Markup.ownHeading children := by
  have nothing : Markup.ownHeading (.element (.html name) attrs children) = [] := by
    simp only [Markup.ownHeading, Tag.name, other]
  rw [Markup.collect_element, nothing, List.nil_append]

/-- A heading gives itself, with its identifier, and then the headings that are in it. -/
theorem collect_headings_heading (id : String) (level : Nat) (children : List Markup)
    : Markup.collect Markup.ownHeading ((Shell.heading id level).fill children)
      = headingContribution id (.heading level)
        ++ Markup.collectAll Markup.ownHeading children := by
  have known := headingLevel?_of_level level
  rw [Shell.heading, heading?_isSome, headingContribution]
  cases valid : isHeadingLevel level with
  | true =>
      rw [valid, if_pos rfl] at known
      have target : Markup.leadingTarget? (Shell.headingAnchor id :: children)
          = some ("#" ++ id) := by
        simp [Shell.headingAnchor, Markup.elem, Markup.leadingTarget?, Attributes.get?_set]
      rw [if_pos rfl, if_pos rfl, Shell.fill, List.singleton_append, Markup.collect_element,
        Markup.ownHeading, Tag.name, known, Attributes.get?_set_self, target,
        Markup.collectAll_cons, Shell.headingAnchor, Markup.elem,
        collect_headings_of_other rfl, Markup.collectAll_nil, List.nil_append]
  | false =>
      rw [valid, if_neg Bool.false_ne_true] at known
      rw [if_neg Bool.false_ne_true, if_neg Bool.false_ne_true]
      exact collect_headings_of_other known _ _

/-- The headings in the markup are read off the tree: nothing but a heading makes one. -/
theorem reads_headings (cx : RenderContext)
    : Reads cx Markup.ownHeading headingContribution := by
  apply reads_of_headings_and_links
  · intro markup bare
    cases markup with
    | element tag attrs children => cases bare
    | _ => rfl
  · intro name listed attrs children
    have other : Html.headingLevel? name = none := by
      revert name
      decide
    simp only [Markup.ownHeading, Tag.name, other]
  · exact collect_headings_heading
  · intro id href title attrs children
    have other : Html.headingLevel? (Link.tag href).name = none := by
      unfold Link.tag
      cases Link.classify href <;> rfl
    simp only [Markup.collect_element, Markup.ownHeading, other, headingContribution]
  · intro id kind notHeading _
    cases kind with
    | heading level => exact absurd rfl (notHeading level)
    | _ => rfl

-----------------------------------------------------------------------------------------
-- Occurrences and list entries
-----------------------------------------------------------------------------------------

/-- The headings among nodes, with the texts that their identifiers are made from. -/
def Node.headingsOf (nodes : List Node) : List (Nat × String) :=
  nodes.filterMap fun node => node.headingLevel?.map (·, node.textContent)

/-- The list entry of a heading under an identifier. -/
def Header.ofHeading (heading : Nat × String) (id : String) : Header :=
  ⟨String.ofList (Text.trim heading.2.toList), heading.1, id⟩

/-- The heading element of a listed heading that is paired with its visibility. -/
def shownElement (entry : Header × Bool) : Option HeadingElement :=
  if entry.2 && isHeadingLevel entry.1.level then some entry.1.element else none

/-- A node that is no heading contributes none. -/
theorem contribute_of_not_heading {node : Node} (other : node.headingLevel? = none)
    (visible : Bool) (id : String)
    : Occurrence.contribute headingContribution ⟨visible, node, id⟩ = [] := by
  cases visible with
  | false => rfl
  | true =>
      cases node with
      | table children headers rows => rfl
      | plain kind children =>
          cases kind with
          | heading level => cases other
          | _ => rfl

/-- Listed nodes contribute the elements of the headings that show, by induction on the list: node
and entry take the same identifier because both lists go on where the other does.
-/
theorem contribute_headings (entries : List (Bool × Node)) (ids : List String)
    (enough : Node.headingCount (entries.map Prod.snd) ≤ ids.length)
    : (occurrences entries ids).flatMap (Occurrence.contribute headingContribution)
      = ((List.zipWith Header.ofHeading (Node.headingsOf (entries.map Prod.snd)) ids).zip
            (entries.filterMap fun entry => entry.2.headingLevel?.map fun _ => entry.1)).filterMap
          shownElement := by
  induction entries generalizing ids with
  | nil => rfl
  | cons entry rest ih =>
      obtain ⟨visible, node⟩ := entry
      rw [List.map_cons, Node.headingCount_cons _ (rest.map Prod.snd)] at enough
      have later := ih (ids.drop (Node.headingCount [node]))
        (by rw [List.length_drop]; exact Nat.le_sub_of_add_le' enough)
      rw [occurrences, List.flatMap_cons, later]
      -- Only a heading takes an identifier, and shows it if its level is from one to six.
      cases level : node.headingLevel? with
      | none =>
          have count : Node.headingCount [node] = 0 := by simp [Node.headingCount, level]
          rw [count, List.drop_zero, contribute_of_not_heading level, List.nil_append]
          simp only [Node.headingsOf, List.map_cons, List.filterMap_cons, level, Option.map_none]
      | some level =>
          cases node with
          | table children headers rows => cases level
          | plain kind children =>
              cases kind <;> cases level
              cases ids with
              | nil => exact absurd enough (by simp [Node.headingCount, Node.headingLevel?])
              | cons id ids =>
                  simp only [Node.headingsOf, List.map_cons, List.filterMap_cons,
                    Node.headingLevel?, Option.map_some, List.zipWith_cons_cons,
                    List.zip_cons_cons, shownElement, Header.ofHeading]
                  cases visible with
                  | false => rfl
                  | true =>
                      simp only [Occurrence.contribute, headingContribution, Bool.true_and]
                      cases isHeadingLevel level <;> rfl

end Docpress
