import Docpress.Document
import Docpress.Markdown
import Docpress.Proofs.Node.Depth
import Docpress.Proofs.Node.Parsed
import Docpress.Proofs.Rendering.Standard

/-!
How deep the trees of Markdown documents are. Conversion refuses nodes below the deepest level, but not
the code of a code block and not the cells of a table, so these may stand one level too deep; the
renderer then refuses the tree.
-/

namespace Docpress

namespace Node

/-- Whether conversion puts nodes below a node without checking their level: the code of a code block,
or the cells of a table.
-/
def addsLevel : Node → Bool
  | .plain .pre _ => true
  | .table _ headers rows => !(headers ++ rows.flatten).isEmpty
  | _ => false

/-- Whether a node on the deepest level has nodes below it that conversion has not checked. -/
def Overflows (tree : Node) : Prop :=
  ∃ entry ∈ tree.leveled, entry.1 = maxNesting ∧ entry.2.addsLevel = true

/-- What is nested in a node stands above a limit, or on it without having been checked. -/
def FitsAbove (limit : Nat) (entry : Nat × Node) : Prop :=
  (entry.2.addsLevel = true → entry.2.nested ≠ [])
  ∧ (entry.2.nested ≠ []
    → entry.1 + 1 < limit ∨ entry.1 + 1 = limit ∧ entry.2.addsLevel = true)

variable {fine : Nat → Bool}

/-- A node fits if everything in it is checked and there is room for it. -/
theorem FitsAbove.of_checked {limit level : Nat} {node : Node} (checked : node.addsLevel = false)
    (room : ∀ below ∈ node.nested, level + 1 < limit)
    : FitsAbove limit (level, node) := by
  refine ⟨fun adds => absurd (checked.symm.trans adds) Bool.false_ne_true, fun inhabited => ?_⟩
  obtain ⟨below, inside⟩ := List.exists_mem_of_ne_nil _ inhabited
  exact Or.inl (room below inside)

/-- A node fits where it is checked itself if it adds a level whenever something is nested in it. -/
theorem FitsAbove.of_adds {level levels : Nat} {node : Node}
    (adds : node.addsLevel = true ↔ node.nested ≠ [])
    : FitsAbove (level + (levels + 1)) (level, node) := by
  refine ⟨adds.mp, fun inhabited => ?_⟩
  rcases Nat.eq_zero_or_pos levels with rfl | room
  · exact Or.inr ⟨rfl, adds.mpr inhabited⟩
  · exact Or.inl (Nat.add_lt_add_left (Nat.succ_lt_succ room) level)

/-- Something that is parsed needs a level to stand on. -/
theorem Parsed.levels_pos {levels : Nat} {node : Node} (parsed : Parsed fine levels node)
    : 0 < levels := by
  cases parsed <;> exact Nat.succ_pos _

/-- Conversion keeps what it checks above the limit, by induction on how the tree is made. -/
theorem Parsed.fits {levels : Nat} {node : Node} (parsed : Parsed fine levels node) (level : Nat)
    : ∀ entry ∈ inherit levelRule level node, FitsAbove (level + levels) entry := by
  induction parsed generalizing level with
  | @leaf levels kind bare =>
      have checked : addsLevel (.leaf kind) = false := by
        cases kind <;> first | rfl | cases bare
      exact List.forall_mem_singleton.mpr (.of_checked checked fun _ inside => nomatch inside)
  | @holder levels kind children holds below ih =>
      have checked : addsLevel (.plain kind children) = false := by
        cases kind <;> first | rfl | cases holds
      rw [inherit_levelRule]
      refine List.forall_mem_cons.mpr ⟨.of_checked checked fun child inside => ?_, ?_⟩
      · -- The children have a level to stand on, and the node stands above it.
        have room := (below child inside).levels_pos
        omega
      · intro entry member
        obtain ⟨child, here, inside⟩ := (mem_inheritAll levelRule).mp member
        have fits := ih child here (level + 1) entry inside
        rwa [Nat.add_right_comm] at fits
  | @codeBlock levels language literal =>
      have adds : (ofCode language literal).addsLevel = true
          ↔ (ofCode language literal).nested ≠ [] :=
        iff_of_true rfl (List.cons_ne_nil _ _)
      refine List.forall_mem_cons.mpr ⟨.of_adds adds, ?_⟩
      exact List.forall_mem_singleton.mpr (.of_checked rfl fun _ inside => nomatch inside)
  | @table levels headers rows cells below ih =>
      have adds : addsLevel (.table [] headers rows) = true
          ↔ (Node.table [] headers rows).nested ≠ [] := by
        rw [addsLevel, Bool.not_eq_true', ← Bool.not_eq_true, List.isEmpty_iff]
        rfl
      rw [inherit_levelRule]
      refine List.forall_mem_cons.mpr ⟨.of_adds adds, fun entry member => ?_⟩
      obtain ⟨cell, here, inside⟩ := (mem_inheritAll levelRule).mp member
      rw [cells cell here, inherit_levelRule] at inside
      rcases List.mem_cons.mp inside with same | inside
      · -- A cell is not checked, but what it holds is, one level further down.
        subst same
        refine .of_checked rfl fun child listed => ?_
        have room := (below cell here child listed).levels_pos
        omega
      · obtain ⟨child, listed, inside⟩ := (mem_inheritAll levelRule).mp inside
        have room := (below cell here child listed).levels_pos
        have fits := ih cell here child listed (level + 1 + 1) entry inside
        have same : level + 1 + 1 + (levels - 1) = level + (levels + 1) := by omega
        rwa [same] at fits

/-- In the tree of a document everything that is checked stays within the deepest level. -/
theorem fits_of_ofSource {read : BlockReader} {options : RenderOptions} {source : String}
    {tree : Node} (success : ofSource read options source = .ok tree)
    : ∀ entry ∈ tree.leveled, FitsAbove (maxNesting + 1) entry := by
  have anyLevel : ∀ text, ∀ block ∈ read text, ∀ level ∈ block.headingLevels,
      (fun _ => true : Nat → Bool) level = true := fun _ _ _ _ _ => rfl
  obtain ⟨nodes, rfl, parsed⟩ := parsed_ofSource anyLevel success
  rw [leveled, inherit_levelRule]
  refine List.forall_mem_cons.mpr ⟨.of_checked rfl fun _ _ => by decide, fun entry member => ?_⟩
  obtain ⟨node, here, inside⟩ := (mem_inheritAll levelRule).mp member
  have fits := (parsed node here).fits (0 + 1) entry inside
  rwa [Nat.add_comm (0 + 1)] at fits

/-- A document that is converted is one level too deep at most: what stands above its deepest nodes was
checked, by cases on where a node stands.
-/
theorem depth_le_succ_of_ofSource {read : BlockReader} {options : RenderOptions} {source : String}
    {tree : Node} (success : ofSource read options source = .ok tree)
    : tree.depth ≤ maxNesting + 1 := by
  rw [depth_le_iff]
  intro entry member
  rcases exists_above member with same | ⟨above, listed, next, inside⟩
  · rw [same]
    exact Nat.zero_le _
  · have fits := (fits_of_ofSource success above listed).2 (List.ne_nil_of_mem inside)
    omega

/-- A document is too deep exactly if a node on the deepest level holds nodes unchecked. -/
theorem lt_depth_iff_overflows {read : BlockReader} {options : RenderOptions} {source : String}
    {tree : Node} (success : ofSource read options source = .ok tree)
    : maxNesting < tree.depth ↔ tree.Overflows := by
  have fits := fits_of_ofSource success
  rw [← Nat.not_le, depth_le_iff_of_le_succ (depth_le_succ_of_ofSource success)]
  constructor
  · intro deep
    refine Classical.byContradiction fun within => deep fun entry member level => ?_
    refine Classical.byContradiction fun inhabited => ?_
    rcases (fits entry member).2 inhabited with room | ⟨_, adds⟩
    · omega
    · exact within ⟨entry, member, level, adds⟩
  · rintro ⟨entry, member, level, adds⟩ bare
    exact (fits entry member).1 adds (bare entry member level)

end Node

/-- The nesting of a document that conversion accepts may pass the limit by one level. It does so
exactly if a node on the deepest level holds nodes that conversion has not checked, and exactly then
the renderer refuses the tree for its nesting.
-/
theorem nesting_of_ofSource {read : Node.BlockReader} {options : RenderOptions} {source : String}
    {tree : Node} (success : Node.ofSource read options source = .ok tree)
    : tree.depth ≤ Node.maxNesting + 1
      ∧ (tree.depth ≤ Node.maxNesting ↔ ¬tree.Overflows)
      ∧ (tree.Overflows
        → ∀ cx overrides, renderTree cx overrides tree = .error (.nestingTooDeep Node.maxNesting))
      ∧ ∀ cx limit, renderTree cx none tree = .error (.nestingTooDeep limit) → tree.Overflows := by
  have overflows := Node.lt_depth_iff_overflows success
  refine ⟨Node.depth_le_succ_of_ofSource success, ?_, fun overflow cx overrides => ?_, ?_⟩
  · rw [← overflows, Nat.not_lt]
  · exact renderTree_eq_error_iff.mpr (Or.inl ⟨overflows.mpr overflow, rfl⟩)
  · intro cx limit refused
    rcases renderTree_eq_error_iff.mp refused with ⟨deep, _⟩ | ⟨_, failure⟩
    · exact overflows.mp deep
    · cases renderNode_error (standard_faults cx) failure

/-- As many marks of quotes as leave what follows them on the deepest level. -/
def deepQuotes : String :=
  String.ofList (List.replicate 127 '>')

/-- A table with one empty header on the deepest level. -/
def deepTable : String :=
  deepQuotes ++ "| |\n" ++ deepQuotes ++ "|-|"

/-- The cell of a table on the deepest level is not checked, and the renderer finds it too deep. -/
theorem nesting_of_deepTable
    : ∃ tree,
        Node.ofMarkdown {} deepTable = .ok tree
        ∧ tree.depth = Node.maxNesting + 1
        ∧ ∀ cx overrides,
            renderTree cx overrides tree = .error (.nestingTooDeep Node.maxNesting) := by
  have measured : (Node.ofMarkdown {} deepTable).toOption.map Node.depth = some 129 := by
    decide +kernel
  obtain ⟨tree, success, depth⟩ := Fallible.exists_of_toOption_map measured
  obtain ⟨_, within, refused, _⟩ := nesting_of_ofSource success
  have overflow : tree.Overflows := by
    refine Classical.byContradiction fun fits => ?_
    have shallow := within.mpr fits
    rw [depth] at shallow
    exact absurd shallow (by decide)
  exact ⟨tree, success, depth, refused overflow⟩

/-- A document that conversion accepts although it nests deeper than the limit: code in quotes. The
renderer refuses it.
-/
theorem accepted_too_deep
    : ∃ tree,
        Node.ofMarkdown {} (deepQuotes ++ "     code") = .ok tree
        ∧ ¬tree.depth ≤ Node.maxNesting
        ∧ renderTree ⟨{}, none⟩ none tree = .error (.nestingTooDeep Node.maxNesting) := by
  have measured
      : (Node.ofMarkdown {} (deepQuotes ++ "     code")).toOption.map Node.depth = some 129 := by
    decide +kernel
  obtain ⟨tree, success, depth⟩ := Fallible.exists_of_toOption_map measured
  have deep : Node.maxNesting < tree.depth := by
    rw [depth]
    decide
  exact ⟨tree, success, Nat.not_le.mpr deep, renderTree_eq_error_iff.mpr (Or.inl ⟨deep, rfl⟩)⟩

end Docpress
