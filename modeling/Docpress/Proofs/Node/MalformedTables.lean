import Docpress.Node.OfMarkdown
import Docpress.Proofs.Fallible
import Docpress.Proofs.Node.Depth

/-!
Code blocks that are marked as tables but hold none. They are code like any other, so it makes no
difference to a document whether tables are to be read.
-/

namespace Docpress

namespace Markdown

/-- A code block and the level that it is on. -/
structure CodeAt where
  level : Nat
  info : String
  literal : String
  deriving DecidableEq

variable {α : Type}

mutual

/-- The code blocks in a block on a level, in document order. -/
def Block.codes (level : Nat) : Block α → List CodeAt
  | .code info literal => [⟨level, info, literal⟩]
  | .quote children => Block.codesAll (level + 1) children
  | .list _ items => Block.codesItems (level + 1) items
  | .other _ children => Block.codesAll (level + 1) children
  | _ => []

/-- The code blocks in a list of blocks on a level, in document order. -/
def Block.codesAll (level : Nat) : List (Block α) → List CodeAt
  | [] => []
  | block :: rest => block.codes level ++ Block.codesAll level rest

/-- The code blocks in the items of a list, which are on a level, in document order. -/
def Block.codesItems (level : Nat) : List (List (Block α)) → List CodeAt
  | [] => []
  | item :: rest => Block.codesAll (level + 1) item ++ Block.codesItems level rest

end

/-- The code in blocks is that in each block, by induction on the blocks. -/
theorem Block.codesAll_eq_flatMap (level : Nat) (blocks : List (Block α))
    : Block.codesAll level blocks = blocks.flatMap (Block.codes level) := by
  induction blocks with
  | nil => rfl
  | cons block rest ih => rw [Block.codesAll, List.flatMap_cons, ih]

/-- Code in one of the blocks is code in the blocks. -/
theorem Block.mem_codesAll {level : Nat} {blocks : List (Block α)} {block : Block α}
    (member : block ∈ blocks) {code : CodeAt} (listed : code ∈ block.codes level)
    : code ∈ Block.codesAll level blocks := by
  rw [Block.codesAll_eq_flatMap]
  exact List.mem_flatMap.mpr ⟨block, member, listed⟩

/-- The code in list items is that in each item, one level below, by induction on the items. -/
theorem Block.codesItems_eq_flatMap (level : Nat) (items : List (List (Block α)))
    : Block.codesItems level items = items.flatMap (Block.codesAll (level + 1)) := by
  induction items with
  | nil => rfl
  | cons item rest ih => rw [Block.codesItems, List.flatMap_cons, ih]

end Markdown

namespace Node

open Fallible Markdown

/-- Whether the options leave a code block as it is. -/
def KeepsCode (options : RenderOptions) (code : CodeAt) : Prop :=
  structuredTable? options (infoLanguage? code.info) code.literal = none

/-- Blocks become the same under all options that leave their code blocks as they are, and the text of no
cell is read. The induction is on the levels left, of which a list takes two.
-/
theorem ofBlock_congr {read other : BlockReader} {options options' : RenderOptions}
    {levels level : Nat} {block : Block (List Inline)}
    (keeps : ∀ code ∈ block.codes level, KeepsCode options code ∧ KeepsCode options' code)
    : ofBlock read options levels block = ofBlock other options' levels block := by
  induction levels using Nat.strongRecOn generalizing level block with
  | ind levels ih =>
    have all {fewer : Nat} (less : fewer < levels) {level : Nat}
        {blocks : List (Block (List Inline))}
        (keeps : ∀ code ∈ Block.codesAll level blocks,
          KeepsCode options code ∧ KeepsCode options' code)
        : blocks.mapM (ofBlock read options fewer) = blocks.mapM (ofBlock other options' fewer) := by
      exact mapM_congr fun block member =>
        ih fewer less fun code listed => keeps code (Block.mem_codesAll member listed)
    rw [ofBlock.eq_def, ofBlock.eq_def other]
    cases levels with
    | zero => rfl
    | succ levels =>
      cases block with
      | quote children | other tag children =>
          exact congrArg (Except.map _) (all (Nat.lt_succ_self levels) keeps)
      | list start items =>
          refine congrArg (Except.map _) (mapM_congr fun item member => ?_)
          -- An item takes a level of its own, so that its blocks have two levels fewer than the list.
          cases levels with
          | zero => rfl
          | succ levels =>
              have inItem : ∀ code ∈ Block.codesAll (level + 2) item,
                  KeepsCode options code ∧ KeepsCode options' code := fun code listed => by
                refine keeps code ?_
                rw [Block.codes, Block.codesItems_eq_flatMap]
                exact List.mem_flatMap.mpr ⟨item, member, listed⟩
              exact congrArg (Except.map _) (all (by omega) inItem)
      | code info literal =>
          obtain ⟨here, there⟩ := keeps _ List.mem_cons_self
          simp only [KeepsCode] at here there
          simp only [here, there]
      | _ => rfl

/-- A document is the same under all options that leave its code blocks as they are. -/
theorem ofBlocks_congr {read other : BlockReader} {options options' : RenderOptions}
    {blocks : List (Block (List Inline))}
    (keeps : ∀ code ∈ Block.codesAll 1 blocks, KeepsCode options code ∧ KeepsCode options' code)
    : ofBlocks read options blocks = ofBlocks other options' blocks := by
  refine congrArg (Except.map _) (mapM_congr fun block member => ?_)
  exact ofBlock_congr fun code listed => keeps code (Block.mem_codesAll member listed)

/-- Whether a node is that of a code block. -/
def isPre : Node → Bool
  | .plain .pre _ => true
  | _ => false

/-- The nodes of code blocks in a tree on a level, in document order, each with its level. -/
def pres (level : Nat) (node : Node) : List (Nat × Node) :=
  (inherit levelRule level node).filter fun entry => entry.2.isPre

/-- In a node that is no code block, code blocks are found only in what is nested in it. -/
theorem pres_of_not_isPre {node : Node} (other : node.isPre = false) (level : Nat)
    : pres level node = node.nested.flatMap (pres (level + 1)) := by
  rw [pres, inherit_levelRule, List.filter_cons, other, if_neg Bool.false_ne_true,
    inheritAll_eq_flatMap, List.filter_flatMap]
  rfl

/-- No code block is in running text, by induction on the levels left. -/
theorem pres_ofInline {levels : Nat} {content : Inline} {node : Node}
    (success : ofInline levels content = .ok node) (level : Nat)
    : pres level node = [] := by
  induction levels generalizing content node level with
  | zero => cases success
  | succ levels ih =>
      have held {children : List Inline} {kind : Kind}
          (other : ∀ nodes, isPre (.plain kind nodes) = false)
          (success : (children.mapM (ofInline levels)).map (plain kind) = .ok node)
          : pres level node = [] := by
        obtain ⟨nodes, below, rfl⟩ := map_eq_ok_iff.mp success
        rw [pres_of_not_isPre (other nodes), List.flatMap_eq_nil_iff]
        intro child member
        obtain ⟨piece, _, made⟩ := exists_of_mem_mapM below member
        exact ih made (level + 1)
      cases content with
      | text value | softBreak | lineBreak | code literal | html markup =>
          cases success
          rfl
      | emphasis children => exact held (fun _ => rfl) success
      | strong children => exact held (fun _ => rfl) success
      | strikethrough children => exact held (fun _ => rfl) success
      | link target title children => exact held (fun _ => rfl) success
      | other tag children => exact held (fun _ => rfl) success
      | image source title children =>
          obtain ⟨nodes, _, rfl⟩ := map_eq_ok_iff.mp success
          rfl

/-- Running text holds no code blocks. -/
theorem pres_running {levels : Nat} {content : List Inline} {nodes : List Node}
    (success : content.mapM (ofInline levels) = .ok nodes) (level : Nat)
    : nodes.flatMap (pres level) = [] := by
  rw [List.flatMap_eq_nil_iff]
  intro node member
  obtain ⟨piece, _, made⟩ := exists_of_mem_mapM success member
  exact pres_ofInline made level

/-- The node of a code block that is left as it is, with its level. -/
def codeEntry (code : CodeAt) : Nat × Node :=
  (code.level, ofCode (infoLanguage? code.info) code.literal)

/-- Code blocks that are left as they are become nodes of their own, on the levels that they are on. The
induction is on the levels left, of which a list takes two.
-/
theorem pres_ofBlock {read : BlockReader} {options : RenderOptions} {levels level : Nat}
    {block : Block (List Inline)} (keeps : ∀ code ∈ block.codes level, KeepsCode options code)
    {nodes : List Node} (success : ofBlock read options levels block = .ok nodes)
    : nodes.flatMap (pres level) = (block.codes level).map codeEntry := by
  induction levels using Nat.strongRecOn generalizing level block nodes with
  | ind levels ih =>
    have all {fewer : Nat} (less : fewer < levels) {level : Nat}
        {blocks : List (Block (List Inline))}
        (keeps : ∀ code ∈ Block.codesAll level blocks, KeepsCode options code)
        {groups : List (List Node)} (success : blocks.mapM (ofBlock read options fewer) = .ok groups)
        : groups.flatten.flatMap (pres level) = (Block.codesAll level blocks).map codeEntry := by
      rw [Block.codesAll_eq_flatMap, List.map_flatMap]
      refine flatMap_flatten_of_mapM success fun block member nodes made => ?_
      exact ih fewer less (fun code listed => keeps code (Block.mem_codesAll member listed)) made
    cases levels with
    | zero => cases success
    | succ levels =>
      rw [ofBlock.eq_def] at success
      cases block with
      | frontMatter text | thematicBreak | html markup =>
          cases success
          rfl
      | paragraph content | heading rank content =>
          obtain ⟨children, below, rfl⟩ := map_eq_ok_iff.mp success
          rw [List.flatMap_singleton, pres_of_not_isPre rfl]
          exact pres_running below (level + 1)
      | quote children | other tag children =>
          obtain ⟨groups, below, rfl⟩ := map_eq_ok_iff.mp success
          rw [List.flatMap_singleton, pres_of_not_isPre rfl]
          exact all (Nat.lt_succ_self levels) keeps below
      | list start items =>
          obtain ⟨nodes, below, rfl⟩ := map_eq_ok_iff.mp success
          rw [List.flatMap_singleton, pres_of_not_isPre rfl]
          rw [Block.codes, Block.codesItems_eq_flatMap] at keeps ⊢
          rw [List.map_flatMap]
          refine flatMap_of_mapM below fun item listed node made => ?_
          -- An item takes a level of its own, so that its blocks have two levels fewer than the list.
          cases levels with
          | zero => cases made
          | succ levels =>
              obtain ⟨groups, below, rfl⟩ := map_eq_ok_iff.mp made
              rw [pres_of_not_isPre rfl]
              refine all (by omega) (fun code found => ?_) below
              exact keeps code (List.mem_flatMap.mpr ⟨item, listed, found⟩)
      | table headers rows =>
          obtain ⟨headerNodes, heads, success⟩ := bind_eq_ok_iff.mp success
          obtain ⟨rowNodes, cells, success⟩ := bind_eq_ok_iff.mp success
          cases success
          -- No code block can be written in a cell, since it holds running text.
          have cell : ∀ content : List Inline, ∀ node,
              (content.mapM (ofInline (levels - 1))).map (plain .tableCell) = .ok node
              → pres (level + 1) node = [] := by
            intro content node made
            obtain ⟨nodes, below, rfl⟩ := map_eq_ok_iff.mp made
            rw [pres_of_not_isPre rfl]
            exact pres_running below (level + 2)
          rw [List.flatMap_singleton, pres_of_not_isPre rfl]
          refine List.flatMap_eq_nil_iff.mpr fun node member => ?_
          rcases List.mem_append.mp member with header | listed
          · obtain ⟨content, _, made⟩ := exists_of_mem_mapM heads header
            exact cell content node made
          · obtain ⟨row, here, listed⟩ := List.mem_flatten.mp listed
            obtain ⟨contents, _, made⟩ := exists_of_mem_mapM cells here
            obtain ⟨content, _, made⟩ := exists_of_mem_mapM made listed
            exact cell content node made
      | code info literal =>
          have none := keeps _ List.mem_cons_self
          simp only [KeepsCode] at none
          simp only [none] at success
          cases success
          rfl

/-- The nodes of code blocks in a document are those of the code blocks that the author has written. -/
theorem pres_ofBlocks {read : BlockReader} {options : RenderOptions}
    {blocks : List (Block (List Inline))}
    (keeps : ∀ code ∈ Block.codesAll 1 blocks, KeepsCode options code) {tree : Node}
    (success : ofBlocks read options blocks = .ok tree)
    : pres 0 tree = (Block.codesAll 1 blocks).map codeEntry := by
  obtain ⟨groups, below, rfl⟩ := map_eq_ok_iff.mp success
  rw [pres_of_not_isPre rfl, Block.codesAll_eq_flatMap, List.map_flatMap]
  refine flatMap_flatten_of_mapM below fun block member nodes made => ?_
  exact pres_ofBlock (fun code listed => keeps code (Block.mem_codesAll member listed)) made

/-- The node of a code block that is marked as a table but holds none. -/
def unreadTable (literal : String) : Node :=
  .plain .pre
    [.leaf (.code literal (some "table") (Attributes.empty.set "class" "language-table"))]

/-- Code that is marked as a table stays code with the marking as its language. -/
theorem ofCode_marked {info : String} (marked : infoLanguage? info = some tableInfo)
    (literal : String)
    : ofCode (infoLanguage? info) literal = unreadTable literal := by
  rw [marked]
  rfl

/-- All options leave a code block as it is from which no table can be read. -/
theorem keepsCode_of_unread {code : CodeAt}
    (unread : infoLanguage? code.info = some tableInfo → Table.ofText? code.literal = none)
    (options : RenderOptions)
    : KeepsCode options code := by
  rw [KeepsCode, structuredTable?]
  by_cases readable : (options.structuredTables && infoLanguage? code.info == some tableInfo) = true
  · rw [if_pos readable]
    exact unread (eq_of_beq (Bool.and_eq_true_iff.mp readable).2)
  · rw [if_neg readable]

/-- Like any other code block, one that is marked as a table takes one level and checks only that. -/
theorem ofBlock_marked {read : BlockReader} {options : RenderOptions} {code : CodeAt}
    (keeps : KeepsCode options code) (marked : infoLanguage? code.info = some tableInfo)
    (levels : Nat)
    : ofBlock read options levels (.code code.info code.literal)
      = if levels = 0 then .error tooDeep else .ok [unreadTable code.literal] := by
  rw [KeepsCode] at keeps
  rw [ofBlock.eq_def]
  cases levels with
  | zero => rfl
  | succ levels => simp only [keeps, ofCode_marked marked, if_neg (Nat.succ_ne_zero levels)]

/-- Code blocks that are marked as tables but hold none, such as text that is no table or has something
behind it, stay code wherever they are in a document. Whether tables are to be read then makes no
difference to its tree, nor to whether it nests too deep; all of the literal is in the tree, on the level
of the code block, and no other code block is there.
-/
theorem malformed_tables_stay_code (read : BlockReader) (options : RenderOptions) (source : String)
    (unread : ∀ code ∈ Block.codesAll 1 (read source),
      infoLanguage? code.info = some tableInfo → Table.ofText? code.literal = none)
    : (∀ structuredTables,
        ofSource read { options with structuredTables } source = ofSource read options source)
      ∧ (∀ code ∈ Block.codesAll 1 (read source), infoLanguage? code.info = some tableInfo
        → ∀ levels, ofBlock read options levels (.code code.info code.literal)
          = if levels = 0 then .error tooDeep else .ok [unreadTable code.literal])
      ∧ ∀ tree, ofSource read options source = .ok tree
        → pres 0 tree = (Block.codesAll 1 (read source)).map codeEntry
          ∧ ∀ code ∈ Block.codesAll 1 (read source), infoLanguage? code.info = some tableInfo
            → (code.level, unreadTable code.literal) ∈ tree.leveled := by
  have keeps (options : RenderOptions) : ∀ code ∈ Block.codesAll 1 (read source),
      KeepsCode options code :=
    fun code listed => keepsCode_of_unread (unread code listed) options
  refine ⟨fun structuredTables => ?_, fun code listed marked levels => ?_, fun tree success => ?_⟩
  · exact ofBlocks_congr fun code listed => ⟨keeps _ code listed, keeps _ code listed⟩
  · exact ofBlock_marked (keeps options code listed) marked levels
  · have entries := pres_ofBlocks (keeps options) success
    refine ⟨entries, fun code listed marked => ?_⟩
    have here : codeEntry code ∈ pres 0 tree := entries ▸ List.mem_map_of_mem listed
    rw [codeEntry, ofCode_marked marked] at here
    exact List.mem_of_mem_filter here

/-- Code blocks that are marked as tables: text that is no JSON, no headers, headers twice, headers of the
wrong type, and something behind the table.
-/
def unreadTables : List (Block (List Inline)) :=
  [.code "table" "\x7bno json",
    .quote
      [.code "table" "\x7b\"rows\":[]\x7d",
        .list none [[.code "table wide" "\x7b\"headers\":[],\"headers\":[]\x7d"]]],
    .list (some 1) [[.code "table" "\x7b\"headers\":1\x7d"], [.code "table" "[[\"a\"]] ]"]],
    .code "text" "[[\"a\"]]"]

/-- The document of these is the same whether tables are to be read or not. -/
theorem unreadTables_stay_code
    : ∃ tree,
        ofSource (fun _ => unreadTables) {} "" = .ok tree
        ∧ ofSource (fun _ => unreadTables) { structuredTables := false } "" = .ok tree
        ∧ (pres 0 tree).map Prod.fst = [1, 2, 4, 3, 3, 1]
        ∧ (4, unreadTable "\x7b\"headers\":[],\"headers\":[]\x7d") ∈ tree.leveled := by
  have unread : ∀ code ∈ Block.codesAll 1 unreadTables,
      infoLanguage? code.info = some tableInfo → Table.ofText? code.literal = none := by
    decide +kernel
  obtain ⟨same, _, shown⟩ := malformed_tables_stay_code (fun _ => unreadTables) {} "" unread
  have measured : (ofSource (fun _ => unreadTables) {} "").toOption.map
      (fun tree => (pres 0 tree).map Prod.fst) = some [1, 2, 4, 3, 3, 1] := by
    decide +kernel
  obtain ⟨tree, success, levels⟩ := exists_of_toOption_map measured
  have listed : ⟨4, "table wide", "\x7b\"headers\":[],\"headers\":[]\x7d"⟩
      ∈ Block.codesAll 1 unreadTables := by decide
  have inItem := (shown tree success).2 _ listed (by decide)
  exact ⟨tree, success, (same false).trans success, levels, inItem⟩

end Node

end Docpress
