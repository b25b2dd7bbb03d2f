import Docpress.Proofs.Association
import Docpress.Proofs.Headings.AnchoredTree
import Mathlib.Data.Option.Basic

/-!
Renderers that a caller gives. They act on the node types that they are given for and on nothing
else: two renderings give the same result if the last renderers given for the types in the tree are
the same, and no renderer changes the identifiers of the headings.
-/

namespace Docpress

/-- How a caller names a node type: by the type itself, or by a tag. -/
inductive TypeName where
  | known (type : NodeType)
  | tag (tag : String)

/-- The node type that a renderer is kept under: a tag that names one stands for it. -/
def TypeName.resolve : TypeName → NodeType
  | .known type => type
  | .tag name => .ofName name

/-- A renderer that a caller adds to those given before. -/
structure Insertion where
  name : TypeName
  renderer : Renderer

namespace Overrides

/-- The renderers after a series of insertions. -/
def ofInsertions (insertions : List Insertion) : Overrides :=
  insertions.foldl
    (fun overrides insertion => overrides.insert insertion.name.resolve insertion.renderer) {}

/-- The renderer that was inserted last for a type, under any of its names. -/
def lastInserted? (insertions : List Insertion) (type : NodeType) : Option Renderer :=
  (insertions.reverse.find? fun insertion => insertion.name.resolve == type).map (·.renderer)

/-- What a series of insertions leaves, in whatever order it is listed. -/
def BuiltBy (insertions : List Insertion) (overrides : Overrides) : Prop :=
  overrides.entries.Perm (ofInsertions insertions).entries

end Overrides

-----------------------------------------------------------------------------------------
-- Maps by node type
-----------------------------------------------------------------------------------------

namespace TypeMap

variable {α β : Type}

/-- Inserting into a map updates its entries. -/
theorem entries_insert (map : TypeMap α) (type : NodeType) (value : α)
    : (map.insert type value).entries = Association.update map.entries type value := by
  rw [insert, get?, Association.lookup_isSome, Association.update]
  split <;> rfl

/-- The value that is inserted is found for its type, and every other type keeps its own. -/
theorem get?_insert (map : TypeMap α) (type : NodeType) (value : α) (other : NodeType)
    : (map.insert type value).get? other = if other == type then some value else map.get? other := by
  rw [get?, entries_insert, Association.lookup_update]
  rfl

/-- Whether every type is listed once. -/
def Distinct (map : TypeMap α) : Prop :=
  (map.entries.map Prod.fst).Nodup

/-- Inserting keeps the types distinct. -/
theorem distinct_insert {map : TypeMap α} (distinct : map.Distinct) (type : NodeType) (value : α)
    : (map.insert type value).Distinct := by
  rw [Distinct, entries_insert]
  exact Association.nodup_keys_update distinct type value

/-- Entries that are inserted one after another hide what was there for their types, by induction on
the entries.
-/
theorem get?_foldl_insert {entries : List (NodeType × α)}
    (distinct : (entries.map Prod.fst).Nodup) (value : α → β) (map : TypeMap β) (type : NodeType)
    : (entries.foldl (fun map entry => map.insert entry.1 (value entry.2)) map).get? type
      = ((entries.lookup type).map value).or (map.get? type) := by
  induction entries generalizing map with
  | nil => rfl
  | cons entry rest ih =>
      obtain ⟨name, new⟩ := entry
      obtain ⟨fresh, others⟩ := List.nodup_cons.mp distinct
      rw [List.foldl_cons, ih others, get?_insert, List.lookup_cons]
      by_cases here : type = name
      · subst here
        have absent : rest.lookup type = none := by
          rw [Option.eq_none_iff_forall_ne_some]
          intro old found
          have member := (Association.lookup_eq_some_iff_mem others).mp found
          exact fresh (List.mem_map.mpr ⟨(type, old), member, rfl⟩)
        simp [absent]
      · simp [beq_eq_false_iff_ne.mpr here]

end TypeMap

namespace Overrides

/-- The last insertion is made into what the others leave. -/
theorem ofInsertions_concat (insertions : List Insertion) (last : Insertion)
    : ofInsertions (insertions ++ [last])
      = (ofInsertions insertions).insert last.name.resolve last.renderer := by
  rw [ofInsertions, List.foldl_append]
  rfl

/-- The last insertion counts for its type, and those before it for the other types. -/
theorem lastInserted?_concat (insertions : List Insertion) (last : Insertion) (type : NodeType)
    : lastInserted? (insertions ++ [last]) type
      = if type == last.name.resolve then some last.renderer
        else lastInserted? insertions type := by
  rw [lastInserted?, List.reverse_concat, List.find?_cons, BEq.comm]
  cases type == last.name.resolve <;> rfl

/-- However often a type is inserted, it is listed once, by induction on the insertions. -/
theorem distinct_ofInsertions (insertions : List Insertion)
    : (ofInsertions insertions).Distinct := by
  induction insertions using List.reverseRecOn with
  | nil => exact List.nodup_nil
  | append_singleton insertions last ih =>
      rw [ofInsertions_concat]
      exact TypeMap.distinct_insert ih _ _

/-- The last insertion for a type counts, by induction on the series. -/
theorem get?_ofInsertions (insertions : List Insertion) (type : NodeType)
    : (ofInsertions insertions).get? type = lastInserted? insertions type := by
  induction insertions using List.reverseRecOn with
  | nil => rfl
  | append_singleton insertions last ih =>
      rw [ofInsertions_concat, TypeMap.get?_insert, ih, lastInserted?_concat]

/-- What insertions leave lists each type once, in whatever order. -/
theorem BuiltBy.distinct {insertions : List Insertion} {overrides : Overrides}
    (built : BuiltBy insertions overrides)
    : overrides.Distinct :=
  (built.map Prod.fst).nodup_iff.mpr (distinct_ofInsertions insertions)

/-- What insertions leave has the last renderer for each type, in whatever order it is listed. -/
theorem BuiltBy.get? {insertions : List Insertion} {overrides : Overrides}
    (built : BuiltBy insertions overrides) (type : NodeType)
    : overrides.get? type = lastInserted? insertions type := by
  rw [← get?_ofInsertions]
  exact Association.lookup_perm built (distinct_ofInsertions insertions) type

end Overrides

/-- A type has the renderer that was inserted last for it, or else the standard one. -/
theorem Registry.renderer?_build {insertions : Option (List Insertion)}
    {overrides : Option Overrides} (built : Option.Rel Overrides.BuiltBy insertions overrides)
    (type : NodeType)
    : (Registry.build overrides).renderer? type
      = (insertions.bind (Overrides.lastInserted? · type)).or (standard.renderer? type) := by
  cases built with
  | none => rfl
  | @some insertions overrides built =>
      have found := built.get? type
      rw [TypeMap.get?] at found
      rw [Registry.renderer?, Registry.build,
        TypeMap.get?_foldl_insert built.distinct (fun renderer => (renderer, Origin.override)),
        found, Option.bind_some]
      cases Overrides.lastInserted? insertions type <;> rfl

-----------------------------------------------------------------------------------------
-- A rendering asks for the types in the tree only
-----------------------------------------------------------------------------------------

section

variable {one two : Registry} {cx : RenderContext}

/-- A node is rendered alike by registries that agree on its type. -/
theorem dispatch_congr {props : Props}
    (same : one.renderer? props.node.type = two.renderer? props.node.type)
    : dispatch one cx props = dispatch two cx props := by
  rw [dispatch, dispatch, same]

mutual

/-- Registries that agree on the types in a tree render it alike, by induction on the tree. -/
theorem renderNode_congr {node : Node}
    (agree : ∀ below ∈ node.preorder, one.renderer? below.type = two.renderer? below.type)
    (ids : List String)
    : renderNode one cx node ids = renderNode two cx node ids := by
  have root : node ∈ node.preorder := by
    rw [Node.preorder_eq_cons_nested]
    exact List.mem_cons_self
  have here := agree node root
  cases node with
  | plain kind children =>
      have below := renderList_congr fun child member =>
        agree child (List.mem_cons_of_mem _ member)
      have same (rendered : List Markup) (anchor : Option String) (nestedIds : List String)
          : dispatch one cx ⟨.plain kind children, rendered, none, anchor, nestedIds⟩
            = dispatch two cx ⟨.plain kind children, rendered, none, anchor, nestedIds⟩ :=
        dispatch_congr here
      simp only [renderNode, below, same]
  | table children headers rows =>
      have below := renderList_congr fun child member =>
        agree child (List.mem_cons_of_mem _ (List.mem_append_left _ member))
      have heads := renderList_congr fun cell member =>
        agree cell (List.mem_cons_of_mem _ (List.mem_append_right _ (List.mem_append_left _ member)))
      have cells := renderRows_congr fun cell member =>
        agree cell (List.mem_cons_of_mem _ (List.mem_append_right _ (List.mem_append_right _ member)))
      have same (rendered : List Markup) (cells : Option (Table Markup)) (nestedIds : List String)
          : dispatch one cx ⟨.table children headers rows, rendered, cells, none, nestedIds⟩
            = dispatch two cx ⟨.table children headers rows, rendered, cells, none, nestedIds⟩ :=
        dispatch_congr here
      simp only [renderNode, below, heads, cells, same]

/-- Nodes in a row are rendered alike by registries that agree on the types among them. -/
theorem renderList_congr {nodes : List Node}
    (agree
      : ∀ below ∈ Node.preorderAll nodes, one.renderer? below.type = two.renderer? below.type)
    (ids : List String)
    : renderList one cx nodes ids = renderList two cx nodes ids := by
  cases nodes with
  | nil => rfl
  | cons node rest =>
      have here := renderNode_congr fun below member => agree below (List.mem_append_left _ member)
      have later := renderList_congr fun below member => agree below (List.mem_append_right _ member)
      simp only [renderList, here, later]

/-- The rows of a table are rendered alike by registries that agree on the types among them. -/
theorem renderRows_congr {rows : List (List Node)}
    (agree
      : ∀ below ∈ Node.preorderRows rows, one.renderer? below.type = two.renderer? below.type)
    (ids : List String)
    : renderRows one cx rows ids = renderRows two cx rows ids := by
  cases rows with
  | nil => rfl
  | cons row rest =>
      have here := renderList_congr fun below member => agree below (List.mem_append_left _ member)
      have later := renderRows_congr fun below member => agree below (List.mem_append_right _ member)
      simp only [renderRows, here, later]

end

end

/-- Overrides under which the last renderers for the types in a tree are the same give the same result,
error or not, in whatever order and under whatever names they were inserted. Whichever overrides
there are, the headings and the title are the same, and the renderers are told the identifiers that
are listed: all outputs come from one tree that carries them.
-/
theorem overrides_act_on_named_types (cx : RenderContext) (tree : Node)
    : (∀ first second one two,
        Option.Rel Overrides.BuiltBy first one
        → Option.Rel Overrides.BuiltBy second two
        → (∀ node ∈ tree.descendants,
            first.bind (Overrides.lastInserted? · node.type)
            = second.bind (Overrides.lastInserted? · node.type))
        → renderTree cx one tree = renderTree cx two tree)
      ∧ ∃ anchored : AnchoredNode,
          anchored.node = tree
          ∧ ∀ one two document other,
              renderTree cx one tree = .ok document
              → renderTree cx two tree = .ok other
              → document.headers = other.headers
                ∧ document.title = other.title
                ∧ document.headers = anchored.headers
                ∧ anchored.render (.build one) cx = .ok document.tree
                ∧ anchored.render (.build two) cx = .ok other.tree := by
  constructor
  · intro first second one two built built' agree
    have same : renderNode (.build one) cx tree (headingIds cx.options tree)
        = renderNode (.build two) cx tree (headingIds cx.options tree) := by
      apply renderNode_congr
      intro node member
      rw [← Node.descendants_eq_preorder] at member
      rw [Registry.renderer?_build built, Registry.renderer?_build built', agree node member]
    simp only [renderTree, same]
  · refine ⟨tree.withHeadingIds cx.options, AnchoredNode.node_anchored _ _, ?_⟩
    intro one two document other success success'
    obtain ⟨headers, title, here⟩ := render_of_renderTree success
    obtain ⟨headers', title', there⟩ := render_of_renderTree success'
    rw [AnchoredNode.headers_withHeadingIds]
    exact ⟨headers.trans headers'.symm, title.trans title'.symm, headers, here, there⟩

/-- A heading that asks for no identifier, in a document that starts with the identifiers in it. -/
def plainHeadings : List Insertion :=
  [⟨.tag "document", fun props _ =>
      .ok (.fragment (props.nestedIds.map Markup.text ++ props.children))⟩,
    ⟨.known .h2, fun props _ => .ok (.wrap "h2" props.children)⟩]

/-- The same after an attempt that is replaced, and with a type that the document does not have. -/
def plainHeadingsAgain : List Insertion :=
  let refuse : Renderer := fun props _ => .error (.renderer props.node.type.name "refused")
  [⟨.tag "root", refuse⟩, ⟨.tag "link", refuse⟩] ++ plainHeadings

/-- Two headings of one text, which are told apart by suffix. -/
def setupSample : Node := .plain .document [.heading 2 "Setup", .heading 3 "Setup"]

/-- Replaced insertions and types that the sample does not have make no difference to it, and a renderer
that asks for no identifier leaves those of the others as they are.
-/
theorem overrides_act_on_setupSample
    : let cx : RenderContext := ⟨{ headingIds := .suffixed }, none⟩
      let given := some (Overrides.ofInsertions plainHeadings)
      renderTree cx given setupSample
          = renderTree cx (some (Overrides.ofInsertions plainHeadingsAgain)) setupSample
        ∧ ∃ document other,
            renderTree cx given setupSample = .ok document
            ∧ renderTree cx none setupSample = .ok other
            ∧ document.tree.toHtml.startsWith "setupsetup-1<h2>Setup</h2><h3 id=\"setup-1\">"
            ∧ document.headers = other.headers
            ∧ other.headers.map (·.id) = ["setup", "setup-1"] := by
  intro cx given
  obtain ⟨alike, _, _, listed⟩ := overrides_act_on_named_types cx setupSample
  constructor
  · apply alike (some plainHeadings) (some plainHeadingsAgain)
    · exact .some (List.Perm.refl _)
    · exact .some (List.Perm.refl _)
    · intro node member
      rw [Node.descendants_eq_preorder] at member
      simp only [setupSample, Node.heading, Node.text, Node.leaf, Node.preorder, Node.preorderAll,
        List.append_nil, List.cons_append, List.nil_append, List.mem_cons, List.not_mem_nil,
        or_false] at member
      rcases member with rfl | rfl | rfl | rfl | rfl <;> rfl
  · have shown
        : (renderTree cx given setupSample).toOption.map
            (·.tree.toHtml.startsWith "setupsetup-1<h2>Setup</h2><h3 id=\"setup-1\">")
          = some true := by
      decide +kernel
    have standard
        : (renderTree cx none setupSample).toOption.map (·.headers.map (·.id))
          = some ["setup", "setup-1"] := by
      decide +kernel
    obtain ⟨document, success, html⟩ := Fallible.exists_of_toOption_map shown
    obtain ⟨other, success', ids⟩ := Fallible.exists_of_toOption_map standard
    exact ⟨document, other, success, success', html, (listed _ _ _ _ success success').1, ids⟩

end Docpress
