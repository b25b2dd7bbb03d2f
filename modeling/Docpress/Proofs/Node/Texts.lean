import Docpress.Node.OfMarkdown
import Docpress.Proofs.Fallible
import Docpress.Proofs.Markdown.Texts
import Docpress.Proofs.Rendering.Visible

/-!
The pieces of text that show in the trees of parsed Markdown: they are those that the author has written,
in the same order.
-/

namespace Docpress

/-- The piece of text that a node of a kind shows of its own. -/
def Kind.texts : Kind → List String
  | .text value => [value]
  | .code literal _ _ => [literal]
  | .softBreak => ["\n"]
  | .html markup => [markup]
  | _ => []

namespace Node

open Fallible Markdown

/-- The pieces of text that show in a list of trees, in document order. -/
def shownTexts (nodes : List Node) : List String :=
  shownParts Kind.texts (inheritAll visibleRule true nodes)

/-- The texts that two rows of nodes show are those of the one and then those of the other. -/
theorem shownTexts_append (left right : List Node)
    : shownTexts (left ++ right) = shownTexts left ++ shownTexts right := by
  rw [shownTexts, inheritAll_append, shownParts_append, shownTexts, shownTexts]

/-- A node that keeps its children shows its own texts and then theirs. -/
theorem shownTexts_plain {kind : Kind} (keeps : kind.keepsChildren = true) (children : List Node)
    : shownTexts [.plain kind children] = kind.texts ++ shownTexts children := by
  rw [shownTexts, inheritAll, inheritAll, List.append_nil, shownParts_plain, keeps, if_pos rfl,
    shownTexts]

/-- A leaf shows its own texts. -/
theorem shownTexts_leaf (kind : Kind) : shownTexts [.leaf kind] = kind.texts := by
  rw [shownTexts, inheritAll, inheritAll, List.append_nil, leaf, shownParts_plain]
  cases kind.keepsChildren <;> exact List.append_nil _

/-- A table shows the texts of its headers and then those of its rows. -/
theorem shownTexts_table (children headers : List Node) (rows : List (List Node))
    : shownTexts [.table children headers rows]
      = shownTexts headers ++ shownTexts rows.flatten := by
  rw [shownTexts, inheritAll, inheritAll, List.append_nil, shownParts_table,
    inheritRows_eq_flatten, shownTexts, shownTexts]

/-- The texts that nodes in a row show are those of each node, by induction on the row. -/
theorem shownTexts_eq_flatMap (nodes : List Node)
    : shownTexts nodes = nodes.flatMap fun node => shownTexts [node] := by
  induction nodes with
  | nil => rfl
  | cons node rest ih =>
      rw [← List.singleton_append, shownTexts_append, ih]
      rfl

/-- A sequence of conversions keeps the texts in order if each of them keeps its own. -/
theorem shownTexts_of_mapM {α : Type} {texts : α → List String}
    {convert : α → Except RenderError Node} {items : List α} {nodes : List Node}
    (success : items.mapM convert = .ok nodes)
    (each : ∀ item ∈ items, ∀ node, convert item = .ok node → shownTexts [node] = texts item)
    : shownTexts nodes = items.flatMap texts := by
  rw [shownTexts_eq_flatMap]
  exact flatMap_of_mapM success each

/-- The same for conversions that give several nodes each. -/
theorem shownTexts_of_mapM_flatten {α : Type} {texts : α → List String}
    {convert : α → Except RenderError (List Node)} {items : List α} {groups : List (List Node)}
    (success : items.mapM convert = .ok groups)
    (each : ∀ item ∈ items, ∀ nodes, convert item = .ok nodes → shownTexts nodes = texts item)
    : shownTexts groups.flatten = items.flatMap texts := by
  rw [shownTexts_eq_flatMap]
  refine flatMap_flatten_of_mapM success fun item member nodes made => ?_
  rw [← shownTexts_eq_flatMap]
  exact each item member nodes made

/-- Code shows its text, and the block around it nothing of its own. -/
theorem shownTexts_ofCode (language : Option String) (literal : String)
    : shownTexts [ofCode language literal] = [literal] :=
  (shownTexts_plain rfl _).trans (shownTexts_leaf _)

/-- Running text keeps its pieces of text, by induction on the levels left. -/
theorem shownTexts_ofInline {levels : Nat} {content : Inline} {node : Node}
    (success : ofInline levels content = .ok node)
    : shownTexts [node] = content.texts := by
  induction levels generalizing content node with
  | zero => cases success
  | succ levels ih =>
      have held {children : List Inline} {kind : Kind} (keeps : kind.keepsChildren = true)
          (bare : kind.texts = [])
          (success : (children.mapM (ofInline levels)).map (plain kind) = .ok node)
          : shownTexts [node] = Inline.textsAll children := by
        obtain ⟨nodes, below, rfl⟩ := map_eq_ok_iff.mp success
        rw [shownTexts_plain keeps, bare, List.nil_append, Inline.textsAll_eq_flatMap]
        exact shownTexts_of_mapM below fun _ _ _ made => ih made
      cases content with
      | text value | softBreak | lineBreak | code literal | html markup =>
          cases success
          exact shownTexts_leaf _
      | emphasis children => exact held rfl rfl success
      | strong children => exact held rfl rfl success
      | strikethrough children => exact held rfl rfl success
      | link target title children => exact held rfl rfl success
      | other tag children => exact held rfl rfl success
      | image source title children =>
          obtain ⟨nodes, _, rfl⟩ := map_eq_ok_iff.mp success
          exact shownTexts_leaf _

/-- Running text shows the texts of its pieces. -/
theorem shownTexts_running {levels : Nat} {content : List Inline} {nodes : List Node}
    (success : content.mapM (ofInline levels) = .ok nodes)
    : shownTexts nodes = Inline.textsAll content := by
  rw [Inline.textsAll_eq_flatMap]
  exact shownTexts_of_mapM success fun _ _ _ made => shownTexts_ofInline made

/-- No code block among the blocks is a table that can be read. -/
def HasPlainCode (options : RenderOptions) (blocks : List (Block (List Inline))) : Prop :=
  ∀ info literal, .code info literal ∈ blocks
    → structuredTable? options (infoLanguage? info) literal = none

/-- Blocks keep their pieces of text where code blocks are code. The induction is on the levels left, of
which a list takes two.
-/
theorem shownTexts_ofBlock {read : BlockReader} {options : RenderOptions} {levels : Nat}
    {block : Block (List Inline)} (plainCode : HasPlainCode options block.preorder)
    {nodes : List Node} (success : ofBlock read options levels block = .ok nodes)
    : shownTexts nodes = block.texts := by
  induction levels using Nat.strongRecOn generalizing block nodes with
  | ind levels ih =>
    cases levels with
    | zero => cases success
    | succ levels =>
      rw [ofBlock.eq_def] at success
      cases block with
      | frontMatter text =>
          cases success
          rfl
      | paragraph content | heading level content =>
          obtain ⟨children, below, rfl⟩ := map_eq_ok_iff.mp success
          rw [shownTexts_plain rfl]
          exact shownTexts_running below
      | thematicBreak | html markup =>
          cases success
          exact shownTexts_leaf _
      | quote children | other tag children =>
          obtain ⟨groups, below, rfl⟩ := map_eq_ok_iff.mp success
          rw [shownTexts_plain rfl, Block.texts, Block.textsAll_eq_flatMap]
          refine shownTexts_of_mapM_flatten below fun child member nodes made => ?_
          refine ih levels (Nat.lt_succ_self levels) (fun info literal listed => ?_) made
          refine plainCode info literal (List.mem_cons_of_mem _ ?_)
          rw [Block.preorderAll_eq_flatMap]
          exact List.mem_flatMap.mpr ⟨child, member, listed⟩
      | list start items =>
          obtain ⟨nodes, below, rfl⟩ := map_eq_ok_iff.mp success
          rw [shownTexts_plain rfl, Block.texts, Block.textsItems_eq_flatMap]
          refine shownTexts_of_mapM below fun item listed node made => ?_
          -- An item takes a level of its own, so that its blocks have two levels fewer than the list.
          cases levels with
          | zero => cases made
          | succ levels =>
              obtain ⟨groups, below, rfl⟩ := map_eq_ok_iff.mp made
              rw [shownTexts_plain rfl, Block.textsAll_eq_flatMap]
              refine shownTexts_of_mapM_flatten below fun child member nodes made => ?_
              refine ih levels (by omega) (fun info literal found => ?_) made
              refine plainCode info literal (List.mem_cons_of_mem _ ?_)
              rw [Block.preorderItems_eq_flatten, Block.preorderAll_eq_flatMap]
              exact List.mem_flatMap.mpr
                ⟨child, List.mem_flatten.mpr ⟨item, listed, member⟩, found⟩
      | table headers rows =>
          obtain ⟨headerNodes, heads, success⟩ := bind_eq_ok_iff.mp success
          obtain ⟨rowNodes, cells, success⟩ := bind_eq_ok_iff.mp success
          cases success
          have cell : ∀ (content : List Inline) node,
              (content.mapM (ofInline (levels - 1))).map (plain .tableCell) = .ok node
              → shownTexts [node] = Inline.textsAll content := by
            intro content node made
            obtain ⟨nodes, below, rfl⟩ := map_eq_ok_iff.mp made
            rw [shownTexts_plain rfl]
            exact shownTexts_running below
          rw [shownTexts_table, Block.texts,
            shownTexts_of_mapM heads fun content _ node made => cell content node made]
          refine congrArg _ (shownTexts_of_mapM_flatten cells fun row _ nodes made => ?_)
          exact shownTexts_of_mapM made fun content _ node made => cell content node made
      | code info literal =>
          have none := plainCode info literal List.mem_cons_self
          simp only [none] at success
          cases success
          exact shownTexts_ofCode _ literal

/-- A document keeps its pieces of text where code blocks are code. -/
theorem shownTexts_ofBlocks {read : BlockReader} {options : RenderOptions}
    {blocks : List (Block (List Inline))} (plainCode : HasPlainCode options (Block.preorderAll blocks))
    {tree : Node} (success : ofBlocks read options blocks = .ok tree)
    : shownTexts [tree] = Block.textsAll blocks := by
  obtain ⟨groups, below, rfl⟩ := map_eq_ok_iff.mp success
  rw [shownTexts_plain rfl, Block.textsAll_eq_flatMap]
  refine shownTexts_of_mapM_flatten below fun block member nodes made => ?_
  refine shownTexts_ofBlock (fun info literal listed => plainCode info literal ?_) made
  rw [Block.preorderAll_eq_flatMap]
  exact List.mem_flatMap.mpr ⟨block, member, listed⟩

end Node

end Docpress
