import Docpress.Proofs.Node.Preorder

/-!
The levels of the nodes of a tree. The depth that the stack walk measures is the deepest of them.
-/

namespace Docpress.Node

/-- What is nested in a node has fewer nodes than the node itself. -/
theorem count_lt_of_mem_nested {node below : Node} (member : below ∈ node.nested)
    : below.count < node.count := by
  have within {nodes : List Node} (member : below ∈ nodes) : below.count ≤ countAll nodes := by
    induction nodes with
    | nil => cases member
    | cons head rest ih =>
        rw [countAll]
        rcases List.mem_cons.mp member with same | later
        · subst same
          omega
        · have tail := ih later
          omega
  rw [count_eq_succ_nested node]
  exact Nat.lt_succ_of_le (within member)

/-- Induction along the nesting of a tree, whether through children or through cells. -/
@[elab_as_elim]
theorem nested_induction {motive : Node → Prop}
    (step : ∀ node : Node, (∀ below ∈ node.nested, motive below) → motive node) (node : Node)
    : motive node :=
  step node fun below _ => nested_induction step below
termination_by node.count
decreasing_by exact count_lt_of_mem_nested ‹_›

/-- Every step down a tree leads one level down. -/
def levelRule : Inheritance Nat where
  toChildren level _ := level + 1
  toCells level _ := level + 1

/-- The nodes of a tree in document order, each with its level. The root has level 0. -/
def leveled (node : Node) : List (Nat × Node) :=
  inherit levelRule 0 node

/-- The nodes of a tree with their levels: the root, and what is nested in it one level below. -/
theorem inherit_levelRule (level : Nat) (node : Node)
    : inherit levelRule level node
      = (level, node) :: inheritAll levelRule (level + 1) node.nested := by
  cases node with
  | plain kind children => rfl
  | table children headers rows =>
      simp only [inherit, levelRule, nested, inheritAll_append, inheritRows_eq_flatten,
        List.append_assoc]

/-- What is nested in a listed node is listed one level below it. -/
theorem nested_mem_inherit {level : Nat} {node : Node} {entry : Nat × Node} {below : Node}
    (member : entry ∈ inherit levelRule level node) (inside : below ∈ entry.2.nested)
    : (entry.1 + 1, below) ∈ inherit levelRule level node := by
  induction node using nested_induction generalizing level with
  | step node ih =>
      rw [inherit_levelRule] at member ⊢
      refine List.mem_cons_of_mem _ ((mem_inheritAll levelRule).mpr ?_)
      rcases List.mem_cons.mp member with same | deeper
      · subst same
        exact ⟨below, inside, mem_inherit_self levelRule _ below⟩
      · obtain ⟨child, here, found⟩ := (mem_inheritAll levelRule).mp deeper
        exact ⟨child, here, ih child here found⟩

/-- Every node but the root is nested in a node one level above it. -/
theorem exists_above {level : Nat} {node : Node} {entry : Nat × Node}
    (member : entry ∈ inherit levelRule level node)
    : entry = (level, node)
      ∨ ∃ above ∈ inherit levelRule level node,
          entry.1 = above.1 + 1 ∧ entry.2 ∈ above.2.nested := by
  induction node using nested_induction generalizing level with
  | step node ih =>
      rw [inherit_levelRule] at member ⊢
      rcases List.mem_cons.mp member with same | deeper
      · exact Or.inl same
      · obtain ⟨child, here, found⟩ := (mem_inheritAll levelRule).mp deeper
        rcases ih child here found with same | ⟨above, listed, next, inside⟩
        · subst same
          exact Or.inr ⟨(level, node), List.mem_cons_self, rfl, here⟩
        · exact Or.inr ⟨above,
            List.mem_cons_of_mem _ ((mem_inheritAll levelRule).mpr ⟨child, here, listed⟩),
            next, inside⟩

/-- The stack walk stays within a bound exactly if every level that it comes by does. -/
theorem deepest_le_iff (bound reached : Nat) (stack : List (Node × Nat))
    : deepest reached stack ≤ bound
      ↔ reached ≤ bound
        ∧ ∀ start ∈ stack, ∀ entry ∈ inherit levelRule start.2 start.1, entry.1 ≤ bound := by
  induction reached, stack using deepest.induct with
  | case1 reached => simp only [deepest, List.not_mem_nil, false_implies, implies_true, and_true]
  | case2 reached node level rest ih =>
      rw [deepest, ih, List.forall_mem_append, List.forall_mem_map, List.forall_mem_cons,
        Nat.max_le, inherit_levelRule, List.forall_mem_cons]
      constructor
      · rintro ⟨⟨hr, hl⟩, below, later⟩
        refine ⟨hr, ⟨hl, fun entry member => ?_⟩, later⟩
        obtain ⟨child, here, found⟩ := (mem_inheritAll levelRule).mp member
        exact below child here entry found
      · rintro ⟨hr, ⟨hl, below⟩, later⟩
        exact ⟨⟨hr, hl⟩, fun child here entry found =>
          below entry ((mem_inheritAll levelRule).mpr ⟨child, here, found⟩), later⟩

/-- A tree is no deeper than a bound if none of its nodes stands below it. -/
theorem depth_le_iff (bound : Nat) (node : Node)
    : node.depth ≤ bound ↔ ∀ entry ∈ node.leveled, entry.1 ≤ bound := by
  rw [depth, deepest_le_iff, List.forall_mem_singleton]
  exact and_iff_right (Nat.zero_le bound)

/-- A tree reaches below a level exactly if a node of that level holds another one. -/
theorem depth_le_iff_of_le_succ {bound : Nat} {node : Node} (near : node.depth ≤ bound + 1)
    : node.depth ≤ bound ↔ ∀ entry ∈ node.leveled, entry.1 = bound → entry.2.nested = [] := by
  rw [depth_le_iff] at near ⊢
  constructor
  · intro within entry member here
    refine List.eq_nil_iff_forall_not_mem.mpr fun below inside => ?_
    have listed := within _ (nested_mem_inherit member inside)
    omega
  · intro bare entry member
    rcases exists_above member with same | ⟨above, listed, next, inside⟩
    · subst same
      exact Nat.zero_le bound
    · refine Nat.le_of_not_lt fun beyond => ?_
      have level := near entry member
      rw [bare above listed (by omega)] at inside
      cases inside

end Docpress.Node
