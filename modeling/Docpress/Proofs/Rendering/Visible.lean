import Docpress.Proofs.Markup.Preorder
import Docpress.Proofs.Rendering.Runs
import Docpress.Proofs.Rendering.Standard

/-!
What shows in the output when no renderer is overridden. A node shows unless it is a child of a node
whose output has no place for children, and what is read off the output in document order comes from
the nodes that show, in their document order.
-/

namespace Docpress

open Fallible

/-- Whether the standard output of a node shows the output of its children. A table shows its cells
only.
-/
def Node.keepsChildren : Node → Bool
  | .plain kind _ => kind.keepsChildren
  | .table .. => false

/-- A node shows if the node above it does, and has a place for it. -/
def visibleRule : Node.Inheritance Bool where
  toChildren visible node := visible && node.keepsChildren
  toCells visible _ := visible

/-- The nodes of a tree in document order, each with whether it shows in standard output. -/
def Node.visibility (tree : Node) : List (Bool × Node) :=
  inherit visibleRule true tree

/-- A node without cells shows where it stands, and its children if it keeps them. -/
theorem inherit_visibleRule_plain (visible : Bool) (kind : Kind) (children : List Node)
    : Node.inherit visibleRule visible (.plain kind children)
      = (visible, .plain kind children)
        :: Node.inheritAll visibleRule (visible && kind.keepsChildren) children := rfl

/-- A table shows where it stands, its cells with it and its other children not at all. -/
theorem inherit_visibleRule_table (visible : Bool) (children headers : List Node)
    (rows : List (List Node))
    : Node.inherit visibleRule visible (.table children headers rows)
      = (visible, .table children headers rows)
        :: (Node.inheritAll visibleRule false children
          ++ (Node.inheritAll visibleRule visible headers
            ++ Node.inheritRows visibleRule visible rows)) := by
  have none : visibleRule.toChildren visible (.table children headers rows) = false :=
    Bool.and_false visible
  rw [Node.inherit, none]
  rfl

/-- A node of a tree with the identifier that its rendering would use for it as a heading. -/
structure Occurrence where
  visible : Bool
  node : Node
  id : String

/-- The identifier of the node if it is a heading, out of those left from it on. -/
def Node.anchor? (node : Node) (ids : List String) : Option String :=
  match node with
  | .plain kind _ => (takeAnchor kind ids).1
  | .table .. => none

/-- The listed nodes with their identifiers, which the headings among them take in order. -/
def occurrences : List (Bool × Node) → List String → List Occurrence
  | [], _ => []
  | (visible, node) :: rest, ids =>
    ⟨visible, node, (node.anchor? ids).getD (slugify node.textContent)⟩
      :: occurrences rest (ids.drop (Node.headingCount [node]))

/-- Of nodes in two lists the second get the identifiers that the first leave, by induction on the first
list.
-/
theorem occurrences_append (left right : List (Bool × Node)) (ids : List String)
    : occurrences (left ++ right) ids
      = occurrences left ids
        ++ occurrences right (ids.drop (Node.headingCount (left.map Prod.snd))) := by
  induction left generalizing ids with
  | nil => rfl
  | cons entry rest ih =>
      rw [List.cons_append, occurrences, ih, occurrences, List.drop_drop, List.cons_append,
        List.map_cons, Node.headingCount_cons _ (rest.map Prod.snd)]

/-- Every occurrence is one of the nodes, with what it inherits. -/
theorem mem_of_mem_occurrences {entries : List (Bool × Node)} {ids : List String}
    {occurrence : Occurrence} (member : occurrence ∈ occurrences entries ids)
    : (occurrence.visible, occurrence.node) ∈ entries := by
  induction entries generalizing ids with
  | nil => cases member
  | cons entry rest ih =>
      rcases List.mem_cons.mp member with same | later
      · subst same
        exact List.mem_cons_self
      · exact List.mem_cons_of_mem _ (ih later)

/-- What a node that shows contributes under its identifier. Tables have nothing of their own. -/
def Occurrence.contribute {α : Type} (contribution : String → Kind → List α)
    (occurrence : Occurrence) : List α :=
  if occurrence.visible then
    match occurrence.node with
    | .plain kind _ => contribution occurrence.id kind
    | .table .. => []
  else
    []

variable {α : Type}

/-- What `own` reads off standard output comes from `contribution`, node by node. -/
structure Reads (cx : RenderContext) (own : Markup → List α)
    (contribution : String → Kind → List α)
    : Prop where
  shell
    : ∀ {id kind shell},
        Shell.ofKind cx id kind = .ok shell
        → ∀ children,
            (shell.fill children).collect own
            = contribution id kind
              ++ if kind.keepsChildren then Markup.collectAll own children else []
  frame : Markup.Ignores own Table.frameNames

/-- The names of the elements of nodes that are neither headings nor links. -/
def plainNames : List String :=
  ["p", "em", "strong", "del", "img", "code", "pre", "blockquote", "ol", "ul", "li", "hr", "br"]
    ++ Table.frameNames

/-- To read something off headings and links only, one has to know what it is for these. -/
theorem reads_of_headings_and_links {cx : RenderContext} {own : Markup → List α}
    {contribution : String → Kind → List α}
    (bare : ∀ markup, markup.elementName? = none → own markup = [])
    (plain
      : ∀ name ∈ plainNames, ∀ attrs children, own (.element (.html name) attrs children) = [])
    (heading
      : ∀ id level children,
          ((Shell.heading id level).fill children).collect own
          = contribution id (.heading level) ++ Markup.collectAll own children)
    (link
      : ∀ id href title attrs children,
          Markup.collect own
              (.element (Link.tag href) (Shell.linkAttributes href title attrs) children)
          = contribution id (.link href title attrs) ++ Markup.collectAll own children)
    (others
      : ∀ id kind,
          (∀ level, kind ≠ .heading level)
          → (∀ href title attrs, kind ≠ .link href title attrs)
          → contribution id kind = [])
    : Reads cx own contribution where
  shell := by
    intro id kind shell known children
    have element {name : String} (listed : name ∈ plainNames) (attrs : Attributes)
        (children : List Markup)
        : Markup.collect own (.element (.html name) attrs children)
          = Markup.collectAll own children := by
      rw [Markup.collect_element, plain name listed, List.nil_append]
    have fragment (children : List Markup)
        : Markup.collect own (.fragment children) = Markup.collectAll own children := by
      rw [Markup.collect_fragment, bare _ rfl, List.nil_append]
    have text (value : String) : Markup.collect own (.text value) = [] := by
      rw [Markup.collect_text, bare _ rfl]
    -- Every other kind of node becomes a fragment, a text or an element with a plain name, and none of
    -- these gives anything of its own.
    cases kind with
    | heading level =>
        cases known
        exact heading id level children
    | link href title attrs =>
        cases known
        exact link id href title attrs children
    | document | tableCell | other tag =>
        cases known
        rw [others id _ (by simp) (by simp)]
        exact fragment children
    | text value | softBreak | html markup =>
        cases known
        rw [others id _ (by simp) (by simp)]
        exact text _
    | paragraph | emphasis | strong | strikethrough | pre | blockQuote | listItem =>
        cases known
        rw [others id _ (by simp) (by simp)]
        exact element (by simp [plainNames]) _ _
    | thematicBreak | lineBreak | image src alt title attrs =>
        cases known
        rw [others id _ (by simp) (by simp)]
        exact element (by simp [plainNames]) _ _
    | code literal language attrs =>
        obtain ⟨content, made, rfl⟩ := map_eq_ok_iff.mp known
        have nothing : Markup.collect own content = [] := by
          rcases codeContent_eq_ok_iff.mp made with ⟨_, rfl⟩ | ⟨_, _, _, _, _, rfl⟩
          · exact text _
          · rw [Markup.collect_trusted, bare _ rfl]
        rw [others id _ (by simp) (by simp), Shell.fill, Markup.elem,
          element (by simp [plainNames]), Markup.collectAll_cons, nothing]
        rfl
    | list ordered start =>
        rw [others id _ (by simp) (by simp)]
        cases ordered with
        | true =>
            cases known
            exact element (by simp [plainNames]) _ _
        | false =>
            cases known
            exact element (by simp [plainNames]) _ _
  frame := fun name listed children => plain name (List.mem_append_right _ listed) _ _

-----------------------------------------------------------------------------------------
-- Nothing below a hidden node shows
-----------------------------------------------------------------------------------------

/-- What stands in something hidden is hidden. -/
theorem keeps_hidden : visibleRule.Keeps (· = false) where
  toChildren visible node hidden := by
    rw [hidden]
    rfl
  toCells _ _ hidden := hidden

/-- Nothing shows of nodes that are in something hidden. -/
theorem hidden_of_mem_inheritAll {nodes : List Node} {entry : Bool × Node}
    (member : entry ∈ Node.inheritAll visibleRule false nodes)
    : entry.1 = false :=
  keeps_hidden.inheritAll rfl nodes entry member

/-- Nodes that are hidden contribute nothing, by induction on the nodes. -/
theorem contribute_hidden (contribution : String → Kind → List α) {entries : List (Bool × Node)}
    (hidden : ∀ entry ∈ entries, entry.1 = false) (ids : List String)
    : (occurrences entries ids).flatMap (Occurrence.contribute contribution) = [] := by
  induction entries generalizing ids with
  | nil => rfl
  | cons entry rest ih =>
      have here := hidden entry List.mem_cons_self
      rw [occurrences, List.flatMap_cons, ih fun entry later => hidden entry (by simp [later])]
      simp only [Occurrence.contribute, here, Bool.false_eq_true, if_false, List.append_nil]

-----------------------------------------------------------------------------------------
-- What the nodes that show have of their own
-----------------------------------------------------------------------------------------

/-- What the listed nodes that show have of their own, in their order. Tables have nothing. -/
def shownParts (own : Kind → List α) (entries : List (Bool × Node)) : List α :=
  entries.flatMap fun entry =>
    match entry with
    | (true, .plain kind _) => own kind
    | _ => []

section

variable (own : Kind → List α)

/-- The parts that two lists of nodes show are those of the one and then those of the other. -/
theorem shownParts_append (left right : List (Bool × Node))
    : shownParts own (left ++ right) = shownParts own left ++ shownParts own right :=
  List.flatMap_append

/-- Nodes that are hidden show no parts. -/
theorem shownParts_hidden {entries : List (Bool × Node)}
    (hidden : ∀ entry ∈ entries, entry.1 = false)
    : shownParts own entries = [] := by
  refine List.flatMap_eq_nil_iff.mpr fun (visible, node) member => ?_
  have here : visible = false := hidden _ member
  rw [here]

/-- A node shows its own part and then, if it has a place for them, those of its children. -/
theorem shownParts_plain (kind : Kind) (children : List Node)
    : shownParts own (Node.inherit visibleRule true (.plain kind children))
      = own kind
        ++ if kind.keepsChildren then shownParts own (Node.inheritAll visibleRule true children)
          else [] := by
  rw [inherit_visibleRule_plain, ← List.singleton_append, shownParts_append, Bool.true_and]
  refine congrArg₂ _ (List.flatMap_singleton _ _) ?_
  cases kind.keepsChildren with
  | true => rfl
  | false => exact shownParts_hidden own fun _ member => hidden_of_mem_inheritAll member

/-- A table shows the parts of its cells. -/
theorem shownParts_table (children headers : List Node) (rows : List (List Node))
    : shownParts own (Node.inherit visibleRule true (.table children headers rows))
      = shownParts own (Node.inheritAll visibleRule true headers)
        ++ shownParts own (Node.inheritRows visibleRule true rows) := by
  rw [inherit_visibleRule_table, ← List.singleton_append, shownParts_append, shownParts_append,
    shownParts_append, shownParts_hidden own (fun _ member => hidden_of_mem_inheritAll member)]
  rfl

/-- Contributions that do not depend on identifiers are the own parts of the nodes. -/
theorem contribute_eq_shownParts (entries : List (Bool × Node)) (ids : List String)
    : (occurrences entries ids).flatMap (Occurrence.contribute fun _ => own)
      = shownParts own entries := by
  induction entries generalizing ids with
  | nil => rfl
  | cons entry rest ih =>
      obtain ⟨visible, node⟩ := entry
      rw [occurrences, List.flatMap_cons, ih, ← List.singleton_append, shownParts_append]
      refine congrArg (· ++ _) ?_
      cases visible <;> cases node <;> exact (List.flatMap_singleton _ _).symm

end

-----------------------------------------------------------------------------------------
-- Output is read in the order of the nodes that show
-----------------------------------------------------------------------------------------

section

variable {cx : RenderContext} {own : Markup → List α} {contribution : String → Kind → List α}

mutual

/-- The output of a tree is what its visible nodes contribute, by induction on the tree; the parts
meet in document order because each rendering hands on the identifiers it leaves.
-/
theorem collect_renderNode (reads : Reads cx own contribution) {node : Node}
    {ids rest : List String} {out : Markup}
    (success : renderNode .standard cx node ids = .ok (out, rest))
    : out.collect own
      = (occurrences (Node.inherit visibleRule true node) ids).flatMap
          (Occurrence.contribute contribution) := by
  cases node with
  | plain kind children =>
      obtain ⟨rendered, below, here⟩ := renderNode_plain_iff.mp success
      rw [dispatch_plain] at here
      obtain ⟨shell, known, rfl⟩ := map_eq_ok_iff.mp here
      rw [reads.shell known, inherit_visibleRule_plain, occurrences, List.flatMap_cons,
        ← takeAnchor_snd kind children, Bool.true_and]
      refine congrArg _ ?_
      -- Children without a place in the output are rendered all the same, but nothing of them shows.
      cases kind.keepsChildren with
      | true => exact collect_renderList reads below
      | false =>
          exact (contribute_hidden contribution
            (fun _ member => hidden_of_mem_inheritAll member) _).symm
  | table children headers rows =>
      obtain ⟨rendered, ids₁, headersOut, ids₂, rowsOut, below, heads, cells, here⟩ :=
        renderNode_table_iff.mp success
      rw [dispatch_table] at here
      obtain ⟨_, _, rfl⟩ := map_eq_ok_iff.mp here
      rw [Table.collect_toMarkup reads.frame, collect_renderList reads heads,
        collect_renderRows reads cells, inherit_visibleRule_table, occurrences,
        occurrences_append, occurrences_append, Node.map_snd_inheritAll,
        Node.map_snd_inheritAll, Node.headingCount_table, show Node.headingCount [] = 0 from rfl,
        List.drop_zero, ← renderList_rest below, ← renderList_rest heads, List.flatMap_cons,
        List.flatMap_append, List.flatMap_append,
        contribute_hidden contribution (fun _ member => hidden_of_mem_inheritAll member)]
      rfl

/-- What is collected from the markup of nodes in a row is what they contribute, one node after another.
-/
theorem collect_renderList (reads : Reads cx own contribution) {nodes : List Node}
    {ids rest : List String} {outs : List Markup}
    (success : renderList .standard cx nodes ids = .ok (outs, rest))
    : Markup.collectAll own outs
      = (occurrences (Node.inheritAll visibleRule true nodes) ids).flatMap
          (Occurrence.contribute contribution) := by
  cases nodes with
  | nil =>
      obtain ⟨rfl, _⟩ := renderList_nil_iff.mp success
      rfl
  | cons node nodes =>
      obtain ⟨out, after, others, here, later, rfl⟩ := renderList_cons_iff.mp success
      rw [Markup.collectAll_cons, collect_renderNode reads here, collect_renderList reads later,
        Node.inheritAll, occurrences_append, List.flatMap_append, Node.map_snd_inherit,
        ← renderNode_rest here]

/-- What is collected from the markup of rows is what they contribute, one row after another. -/
theorem collect_renderRows (reads : Reads cx own contribution) {rows : List (List Node)}
    {ids rest : List String} {outs : List (List Markup)}
    (success : renderRows .standard cx rows ids = .ok (outs, rest))
    : Markup.collectAll own outs.flatten
      = (occurrences (Node.inheritRows visibleRule true rows) ids).flatMap
          (Occurrence.contribute contribution) := by
  cases rows with
  | nil =>
      obtain ⟨rfl, _⟩ := renderRows_nil_iff.mp success
      rfl
  | cons row rows =>
      obtain ⟨out, after, others, here, later, rfl⟩ := renderRows_cons_iff.mp success
      rw [List.flatten_cons, Markup.collectAll_append, collect_renderList reads here,
        collect_renderRows reads later, Node.inheritRows, occurrences_append,
        List.flatMap_append, Node.map_snd_inheritAll, ← renderList_rest here]

end

/-- Whatever is read off the output of a tree comes from a node of the tree. -/
theorem exists_of_mem_collect (reads : Reads cx own contribution) {node : Node}
    {ids rest : List String} {out : Markup}
    (success : renderNode .standard cx node ids = .ok (out, rest)) {part : α}
    (member : part ∈ out.collect own)
    : ∃ id kind children, .plain kind children ∈ node.preorder ∧ part ∈ contribution id kind := by
  rw [collect_renderNode reads success] at member
  obtain ⟨⟨visible, below, id⟩, listed, contributes⟩ := List.mem_flatMap.mp member
  have inside : below ∈ node.preorder := by
    rw [← Node.map_snd_inherit visibleRule true]
    exact List.mem_map_of_mem (mem_of_mem_occurrences listed)
  cases visible with
  | false => cases contributes
  | true =>
      cases below with
      | table children headers rows => cases contributes
      | plain kind children => exact ⟨id, kind, children, inside, contributes⟩

end

end Docpress
