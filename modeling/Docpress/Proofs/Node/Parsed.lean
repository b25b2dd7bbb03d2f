import Docpress.Node.OfMarkdown
import Docpress.Proofs.Fallible
import Docpress.Proofs.Markdown.HeadingLevels
import Docpress.Proofs.Rendering.Standard

/-!
The shape of the trees that parsed Markdown becomes. Blocks and running text check the levels that are
left for them; the code of a code block and the cells of a table do not.
-/

namespace Docpress.Node

open Fallible Markdown

/-- Whether parsed Markdown becomes nodes of a kind with children that it checks the level of. Its
links have a target and a title but no other attributes.
-/
def holdsParsed (fine : Nat → Bool) : Kind → Bool
  | .heading level => fine level
  | .link _ _ attrs => attrs.isEmpty
  | .paragraph | .emphasis | .strong | .strikethrough | .blockQuote | .list .. | .listItem
  | .other _ => true
  | _ => false

/-- Whether parsed Markdown becomes nodes of a kind that never have children. Its images have a source, an
alternative text and a title but no other attributes.
-/
def standsAlone : Kind → Bool
  | .image _ _ _ attrs => attrs.isEmpty
  | .text _ | .code .. | .html _ | .thematicBreak | .softBreak | .lineBreak => true
  | _ => false

/-- The trees that blocks and running text become within a number of levels, with headings of `fine`
levels only.
-/
inductive Parsed (fine : Nat → Bool) : Nat → Node → Prop where
  | leaf {levels : Nat} {kind : Kind} (bare : standsAlone kind = true)
    : Parsed fine (levels + 1) (.leaf kind)
  | holder {levels : Nat} {kind : Kind} {children : List Node}
    (holds : holdsParsed fine kind = true) (below : ∀ child ∈ children, Parsed fine levels child)
    : Parsed fine (levels + 1) (.plain kind children)
  | codeBlock {levels : Nat} (language : Option String) (literal : String)
    : Parsed fine (levels + 1) (ofCode language literal)
  | table {levels : Nat} {headers : List Node} {rows : List (List Node)}
    (cells : ∀ cell ∈ headers ++ rows.flatten, cell = .plain .tableCell cell.children)
    (below : ∀ cell ∈ headers ++ rows.flatten, ∀ child ∈ cell.children,
      Parsed fine (levels - 1) child)
    : Parsed fine (levels + 1) (.table [] headers rows)

variable {fine : Nat → Bool}

/-- A sequence of conversions gives parsed trees if each of them does. -/
theorem parsed_of_mapM {α : Type} {levels : Nat} {convert : α → Except RenderError Node}
    {items : List α} {nodes : List Node} (success : items.mapM convert = .ok nodes)
    (each : ∀ item ∈ items, ∀ node, convert item = .ok node → Parsed fine levels node)
    : ∀ node ∈ nodes, Parsed fine levels node := by
  intro node member
  obtain ⟨item, listed, made⟩ := exists_of_mem_mapM success member
  exact each item listed node made

/-- The same for conversions that give several nodes each. -/
theorem parsed_of_mapM_flatten {α : Type} {levels : Nat}
    {convert : α → Except RenderError (List Node)} {items : List α} {nodes : List (List Node)}
    (success : items.mapM convert = .ok nodes)
    (each : ∀ item ∈ items, ∀ nodes, convert item = .ok nodes
      → ∀ node ∈ nodes, Parsed fine levels node)
    : ∀ node ∈ nodes.flatten, Parsed fine levels node := by
  intro node member
  obtain ⟨group, here, inside⟩ := List.mem_flatten.mp member
  obtain ⟨item, listed, made⟩ := exists_of_mem_mapM success here
  exact each item listed group made node inside

/-- Running text becomes parsed trees, by induction on the levels left. -/
theorem parsed_ofInline {levels : Nat} {content : Inline} {node : Node}
    (success : ofInline levels content = .ok node)
    : Parsed fine levels node := by
  induction levels generalizing content node with
  | zero => cases success
  | succ levels ih =>
      have held {children : List Inline} {kind : Kind} (holds : holdsParsed fine kind = true)
          (success : (children.mapM (ofInline levels)).map (plain kind) = .ok node)
          : Parsed fine (levels + 1) node := by
        obtain ⟨nodes, below, rfl⟩ := map_eq_ok_iff.mp success
        exact .holder holds (parsed_of_mapM below fun _ _ _ made => ih made)
      cases content with
      | text value | softBreak | lineBreak | code literal | html markup =>
          cases success
          exact .leaf rfl
      | emphasis children => exact held rfl success
      | strong children => exact held rfl success
      | strikethrough children => exact held rfl success
      | other tag children => exact held rfl success
      | link target title children => exact held rfl success
      | image source title children =>
          obtain ⟨nodes, _, rfl⟩ := map_eq_ok_iff.mp success
          exact .leaf rfl

/-- The cells of a table are parsed trees one level further down if their contents are. -/
theorem parsed_table {α : Type} {levels : Nat}
    {toChildren : α → Except RenderError (List Node)} {headers : List α} {rows : List (List α)}
    {headerNodes : List Node} {rowNodes : List (List Node)}
    (heads : headers.mapM (fun cell => (toChildren cell).map (plain .tableCell)) = .ok headerNodes)
    (cells
      : rows.mapM (fun row => row.mapM fun cell => (toChildren cell).map (plain .tableCell))
        = .ok rowNodes)
    (each : ∀ cell nodes, toChildren cell = .ok nodes
      → ∀ node ∈ nodes, Parsed fine (levels - 1) node)
    : Parsed fine (levels + 1) (.table [] headerNodes rowNodes) := by
  have made : ∀ cell ∈ headerNodes ++ rowNodes.flatten,
      ∃ content nodes, toChildren content = .ok nodes ∧ .plain .tableCell nodes = cell := by
    intro cell member
    rcases List.mem_append.mp member with member | member
    · obtain ⟨content, _, made⟩ := exists_of_mem_mapM heads member
      exact ⟨content, map_eq_ok_iff.mp made⟩
    · obtain ⟨row, here, inside⟩ := List.mem_flatten.mp member
      obtain ⟨contents, _, made⟩ := exists_of_mem_mapM cells here
      obtain ⟨content, _, made⟩ := exists_of_mem_mapM made inside
      exact ⟨content, map_eq_ok_iff.mp made⟩
  refine .table (fun cell member => ?_) fun cell member => ?_
  · obtain ⟨_, _, _, rfl⟩ := made cell member
    rfl
  · obtain ⟨content, nodes, known, rfl⟩ := made cell member
    exact each content nodes known

/-- The running text of the paragraphs in a cell stands where its other blocks stand. -/
theorem parsed_cellChildren {levels : Nat}
    {ofBlock : Block (List Inline) → Except RenderError (List Node)}
    {blocks : List (Block (List Inline))} {nodes : List Node}
    (success : cellChildren (ofInline levels) ofBlock blocks = .ok nodes)
    (each : ∀ block ∈ blocks, ∀ nodes, ofBlock block = .ok nodes
      → ∀ node ∈ nodes, Parsed fine levels node)
    : ∀ node ∈ nodes, Parsed fine levels node := by
  obtain ⟨groups, below, rfl⟩ := map_eq_ok_iff.mp success
  refine parsed_of_mapM_flatten below fun block member nodes made => ?_
  split at made
  · exact parsed_of_mapM made fun _ _ _ made => parsed_ofInline made
  · exact each block member nodes made

/-- Blocks become parsed trees if their headings have fine levels, and so do the texts of cells. The
induction is on the levels left, of which a list or a cell takes two.
-/
theorem parsed_ofBlock {read : BlockReader} {options : RenderOptions}
    (reads : ∀ text, ∀ block ∈ read text, ∀ level ∈ block.headingLevels, fine level = true)
    {levels : Nat} {block : Block (List Inline)}
    (valid : ∀ level ∈ block.headingLevels, fine level = true) {nodes : List Node}
    (success : ofBlock read options levels block = .ok nodes)
    : ∀ node ∈ nodes, Parsed fine levels node := by
  induction levels using Nat.strongRecOn generalizing block nodes with
  | ind levels ih =>
    cases levels with
    | zero => cases success
    | succ levels =>
      have single {node : Node} (parsed : Parsed fine (levels + 1) node)
          : ∀ other ∈ [node], Parsed fine (levels + 1) other :=
        List.forall_mem_singleton.mpr parsed
      have running {content : List Inline} (kind : Kind) (holds : holdsParsed fine kind = true)
          (success : (content.mapM (ofInline levels)).map (fun nodes => [plain kind nodes])
            = .ok nodes)
          : ∀ node ∈ nodes, Parsed fine (levels + 1) node := by
        obtain ⟨children, below, rfl⟩ := map_eq_ok_iff.mp success
        exact single (.holder holds (parsed_of_mapM below fun _ _ _ made => parsed_ofInline made))
      rw [ofBlock.eq_def] at success
      cases block with
      | frontMatter text =>
          cases success
          exact fun _ member => nomatch member
      | paragraph content => exact running .paragraph rfl success
      | heading level content =>
          exact running (.heading level) (valid level (List.mem_singleton.mpr rfl)) success
      | thematicBreak | html markup =>
          cases success
          exact single (.leaf rfl)
      | quote children | other tag children =>
          obtain ⟨groups, below, rfl⟩ := map_eq_ok_iff.mp success
          have inside : ∀ child ∈ children, ∀ level ∈ child.headingLevels, fine level = true := by
            rw [Block.headingLevels, Block.headingLevelsAll_eq_flatMap] at valid
            exact fun child member level found =>
              valid level (List.mem_flatMap.mpr ⟨child, member, found⟩)
          exact single (.holder rfl (parsed_of_mapM_flatten below fun child member _ made =>
            ih levels (Nat.lt_succ_self levels) (inside child member) made))
      | list start items =>
          obtain ⟨nodes, below, rfl⟩ := map_eq_ok_iff.mp success
          have inside : ∀ item ∈ items, ∀ child ∈ item, ∀ level ∈ child.headingLevels,
              fine level = true := by
            rw [Block.headingLevels, Block.headingLevelsItems_eq_flatMap] at valid
            refine fun item listed child member level found =>
              valid level (List.mem_flatMap.mpr ⟨item, listed, ?_⟩)
            rw [Block.headingLevelsAll_eq_flatMap]
            exact List.mem_flatMap.mpr ⟨child, member, found⟩
          refine single (.holder rfl (parsed_of_mapM below fun item listed node made => ?_))
          -- An item takes a level of its own, so that its blocks have two levels fewer than the list.
          cases levels with
          | zero => cases made
          | succ levels =>
              obtain ⟨groups, below, rfl⟩ := map_eq_ok_iff.mp made
              exact .holder rfl (parsed_of_mapM_flatten below fun child member _ made =>
                ih levels (by omega) (inside item listed child member) made)
      | table headers rows =>
          obtain ⟨headerNodes, heads, success⟩ := bind_eq_ok_iff.mp success
          obtain ⟨rowNodes, cells, success⟩ := bind_eq_ok_iff.mp success
          cases success
          exact single (parsed_table heads cells fun content nodes made =>
            parsed_of_mapM made fun _ _ _ made => parsed_ofInline made)
      | code info literal =>
          dsimp only at success
          split at success
          · cases success
            exact single (.codeBlock _ literal)
          next cells _ =>
            obtain ⟨table, made, rfl⟩ := map_eq_ok_iff.mp success
            obtain ⟨headerNodes, heads, made⟩ := bind_eq_ok_iff.mp made
            obtain ⟨rowNodes, cells, made⟩ := bind_eq_ok_iff.mp made
            cases made
            refine single (parsed_table heads cells fun cell nodes made => ?_)
            refine parsed_cellChildren made fun block member nodes made => ?_
            -- The text of a cell is read anew: the levels of its headings are known from the reader.
            cases levels with
            | zero => cases made
            | succ levels => exact ih levels (by omega) (reads (cellText cell) block member) made

/-- A document holds parsed trees on all the levels below its root. -/
theorem parsed_ofBlocks {read : BlockReader} {options : RenderOptions}
    (reads : ∀ text, ∀ block ∈ read text, ∀ level ∈ block.headingLevels, fine level = true)
    {blocks : List (Block (List Inline))}
    (valid : ∀ block ∈ blocks, ∀ level ∈ block.headingLevels, fine level = true)
    {tree : Node} (success : ofBlocks read options blocks = .ok tree)
    : ∃ nodes, tree = .plain .document nodes ∧ ∀ node ∈ nodes, Parsed fine maxNesting node := by
  obtain ⟨groups, below, rfl⟩ := map_eq_ok_iff.mp success
  exact ⟨groups.flatten, rfl, parsed_of_mapM_flatten below fun block member _ made =>
    parsed_ofBlock reads (valid block member) made⟩

/-- The kinds of nodes in parsed trees, the root of a document included. -/
def isParsed (fine : Nat → Bool) (kind : Kind) : Bool :=
  kind matches .document | .pre | .tableCell || standsAlone kind || holdsParsed fine kind

/-- Nothing else stands anywhere in a parsed tree, by induction on how it is made. -/
theorem Parsed.isParsed {levels : Nat} {node : Node} (parsed : Parsed fine levels node)
    : ∀ kind children, .plain kind children ∈ node.preorder → isParsed fine kind = true := by
  intro kind children member
  induction parsed with
  | @leaf levels kind bare =>
      cases List.mem_singleton.mp member
      simp [Node.isParsed, bare]
  | @holder levels kind nodes holds below ih =>
      rcases List.mem_cons.mp member with same | inside
      · cases same
        simp [Node.isParsed, holds]
      · obtain ⟨node, here, deeper⟩ := mem_preorderAll.mp inside
        exact ih node here deeper
  | codeBlock language literal =>
      rcases List.mem_cons.mp member with same | inside
      · cases same
        rfl
      · cases List.mem_singleton.mp inside
        rfl
  | @table levels headers rows cells below ih =>
      rw [preorder_eq_cons_nested] at member
      rcases List.mem_cons.mp member with same | inside
      · cases same
      · obtain ⟨cell, here, deeper⟩ := mem_preorderAll.mp inside
        -- The cell itself is made by the table, and what it holds is parsed.
        rw [cells cell here] at deeper
        rcases List.mem_cons.mp deeper with same | deeper
        · cases same
          rfl
        · obtain ⟨node, listed, found⟩ := mem_preorderAll.mp deeper
          exact ih cell here node listed found

/-- Every node of a converted document is of a kind that conversion makes, whatever the levels of
headings.
-/
theorem isParsed_ofBlocks {read : BlockReader} {options : RenderOptions}
    {blocks : List (Block (List Inline))} {tree : Node}
    (converted : ofBlocks read options blocks = .ok tree)
    : ∀ kind children,
        .plain kind children ∈ tree.preorder → isParsed (fun _ => true) kind = true := by
  let any : Nat → Bool := fun _ => true
  have reads : ∀ text, ∀ block ∈ read text, ∀ level ∈ block.headingLevels, any level = true :=
    fun _ _ _ _ _ => rfl
  obtain ⟨nodes, rfl, parsed⟩ := parsed_ofBlocks reads (fun _ _ _ _ => rfl) converted
  intro kind children member
  rcases List.mem_cons.mp member with same | inside
  · cases same
    rfl
  · obtain ⟨node, here, deeper⟩ := mem_preorderAll.mp inside
    exact (parsed node here).isParsed kind children deeper

/-- A document that is converted from its source holds nothing but what is parsed. -/
theorem parsed_ofSource {read : BlockReader} {options : RenderOptions} {source : String}
    (reads : ∀ text, ∀ block ∈ read text, ∀ level ∈ block.headingLevels, fine level = true)
    {tree : Node} (success : ofSource read options source = .ok tree)
    : ∃ nodes, tree = .plain .document nodes ∧ ∀ node ∈ nodes, Parsed fine maxNesting node :=
  parsed_ofBlocks reads (reads source) success

end Docpress.Node
