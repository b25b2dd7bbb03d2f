import Docpress.Proofs.Node.Places

/-!
The walks over a tree with a stack, step by step. The walk that lists the nodes and the one that measures
the depth both come to an end, with what the recursion along the tree says: the nodes in document order,
and the height.
-/

namespace Docpress.Node

/-- The walk along a stack, the top of which is its last node: the top is handed out, and what is nested
in it goes on the stack in reverse, so that the first of it is on top. When the stack is empty, the walk
has handed out the listed nodes. One that goes on for ever hands out no list, since only finitely many
steps lead to one.
-/
inductive HandsOut : (stack : List Node) → (nodes : List Node) → Prop where
  | stop : HandsOut [] []
  | pop {stack : List Node} {top : Node} {nodes : List Node}
    (later : HandsOut (stack ++ top.nested.reverse) nodes)
    : HandsOut (stack ++ [top]) (top :: nodes)

/-- The measuring along a stack of nodes with their levels, the top of which is its last entry: the level
of the top counts, and what is nested in it goes on the stack one level below. When the stack is empty,
the result is the largest level so far.
-/
inductive Measures : (reached : Nat) → (stack : List (Node × Nat)) → (result : Nat) → Prop where
  | stop {reached : Nat} : Measures reached [] reached
  | pop {reached : Nat} {stack : List (Node × Nat)} {top : Node} {level result : Nat}
    (later : Measures (max reached level) (stack ++ top.nested.map (·, level + 1)) result)
    : Measures reached (stack ++ [(top, level)]) result

mutual

/-- The height of a tree: a leaf has height 0, and any other node is one level above the highest of its
children and cells.
-/
def height : Node → Nat
  | .plain _ children => heightAbove children
  | .table children headers rows =>
    max (heightAbove children) (max (heightAbove headers) (heightAboveRows rows))

/-- The height of what stands one level above trees, which is 0 if there are none. -/
def heightAbove : List Node → Nat
  | [] => 0
  | node :: rest => max (height node + 1) (heightAbove rest)

/-- The height of what stands one level above rows of trees. -/
def heightAboveRows : List (List Node) → Nat
  | [] => 0
  | row :: rest => max (heightAbove row) (heightAboveRows rest)

end

-----------------------------------------------------------------------------------------
-- Handing out nodes
-----------------------------------------------------------------------------------------

/-- What is on the stack decides what is still handed out, by induction on the steps of the walk. -/
theorem HandsOut.eq_preorderAll {stack nodes : List Node} (walked : HandsOut stack nodes)
    : nodes = preorderAll stack.reverse := by
  induction walked with
  | stop => rfl
  | @pop stack top nodes later ih =>
      rw [ih, List.reverse_append, List.reverse_reverse, List.reverse_append,
        preorderAll_append, List.reverse_singleton, List.singleton_append, preorderAll,
        preorder_eq_cons_nested, List.cons_append]

/-- Every walk along a stack ends, by induction on the nodes that are still to come. -/
theorem handsOut_walk (stack : List Node) : HandsOut stack.reverse (walk stack) := by
  induction stack using walk.induct with
  | case1 =>
      rw [walk]
      exact .stop
  | case2 node rest ih =>
      rw [walk, List.reverse_cons]
      rw [List.reverse_append] at ih
      exact .pop ih

/-- The walk over a tree hands out its descendants, and nothing else can be handed out. -/
theorem handsOut_iff {tree : Node} {nodes : List Node}
    : HandsOut [tree] nodes ↔ nodes = tree.descendants := by
  constructor
  · intro walked
    rw [walked.eq_preorderAll, descendants, walk_eq_preorderAll]
    rfl
  · rintro rfl
    exact handsOut_walk [tree]

-----------------------------------------------------------------------------------------
-- Measuring
-----------------------------------------------------------------------------------------

/-- What stands above two rows of trees is as high as what stands above the higher one. -/
theorem heightAbove_append (left right : List Node)
    : heightAbove (left ++ right) = max (heightAbove left) (heightAbove right) := by
  induction left with
  | nil => simp [heightAbove]
  | cons node rest ih => simp only [List.cons_append, heightAbove, ih, Nat.max_assoc]

/-- What stands above rows of trees is as high as what stands above the rows put together. -/
theorem heightAboveRows_eq_flatten (rows : List (List Node))
    : heightAboveRows rows = heightAbove rows.flatten := by
  induction rows with
  | nil => rfl
  | cons row rest ih => simp only [heightAboveRows, List.flatten_cons, heightAbove_append, ih]

/-- A node is as high as what stands above everything nested in it. -/
theorem height_eq_heightAbove (node : Node) : node.height = heightAbove node.nested := by
  cases node with
  | plain kind children => rfl
  | table children headers rows =>
      simp only [height, nested, heightAbove_append, heightAboveRows_eq_flatten, Nat.max_assoc]

/-- The largest level that the trees on a stack reach. -/
def reach : List (Node × Nat) → Nat
  | [] => 0
  | (node, level) :: rest => max (level + node.height) (reach rest)

/-- Two stacks reach as far as the one that reaches further. -/
theorem reach_append (left right : List (Node × Nat))
    : reach (left ++ right) = max (reach left) (reach right) := by
  induction left with
  | nil => simp [reach]
  | cons entry rest ih => simp only [List.cons_append, reach, ih, Nat.max_assoc]

/-- A node and what is nested in it reach as far as the height of the node says. -/
theorem max_reach_nested (node : Node) (level : Nat)
    : max level (reach (node.nested.map (·, level + 1))) = level + node.height := by
  rw [height_eq_heightAbove]
  induction node.nested with
  | nil => simp [reach, heightAbove]
  | cons below rest ih =>
      simp only [List.map_cons, reach, heightAbove]
      omega

/-- What is on the stack decides the result, by induction on the steps of the measuring: a step takes a
node off the stack and puts on what reaches as far.
-/
theorem Measures.eq_reach {reached result : Nat} {stack : List (Node × Nat)}
    (measured : Measures reached stack result)
    : result = max reached (reach stack) := by
  induction measured with
  | stop => simp [reach]
  | @pop reached stack top level result later ih =>
      have same := max_reach_nested top level
      rw [ih, reach_append, reach_append, reach, reach]
      omega

/-- Measuring comes to the largest level that the stack reaches, or to the level that was reached before.
-/
theorem deepest_eq_reach (reached : Nat) (stack : List (Node × Nat))
    : deepest reached stack = max reached (reach stack) := by
  induction reached, stack using deepest.induct with
  | case1 reached => simp [deepest, reach]
  | case2 reached node level rest ih =>
      have same := max_reach_nested node level
      rw [deepest, ih, reach_append, reach]
      omega

/-- A step of the measuring takes one node more off the stack than it puts on. -/
theorem countLevels_pop (rest : List (Node × Nat)) (top : Node) (level : Nat)
    : countLevels (rest ++ top.nested.map (·, level + 1)) < countLevels (rest ++ [(top, level)]) := by
  simp [countLevels, countAll_append, countAll, count_eq_succ_nested, Function.comp_def]

/-- Measuring a stack comes to a result, since each step leaves fewer nodes to look at. -/
theorem exists_measures (reached : Nat) (stack : List (Node × Nat))
    : ∃ result, Measures reached stack result := by
  rcases List.eq_nil_or_concat' stack with rfl | ⟨rest, ⟨top, level⟩, split⟩
  · exact ⟨reached, .stop⟩
  · obtain ⟨result, later⟩ :=
      exists_measures (max reached level) (rest ++ top.nested.map (·, level + 1))
    exact ⟨result, split ▸ .pop later⟩
termination_by countLevels stack
decreasing_by
  rw [split]
  exact countLevels_pop rest top level

/-- The depth that is measured with a stack is the height that is defined by recursion. -/
theorem depth_eq_height (tree : Node) : tree.depth = tree.height := by
  simp [depth, deepest_eq_reach, reach]

/-- The measuring of a tree comes to its depth, and to nothing else. -/
theorem measures_iff {tree : Node} {result : Nat}
    : Measures 0 [(tree, 0)] result ↔ result = tree.depth := by
  have same {result : Nat} (measured : Measures 0 [(tree, 0)] result) : result = tree.depth := by
    rw [measured.eq_reach, depth, deepest_eq_reach]
  constructor
  · exact same
  · rintro rfl
    obtain ⟨result, measured⟩ := exists_measures 0 [(tree, 0)]
    exact same measured ▸ measured

/-- The walk over any tree ends and hands out its nodes in the order of the recursion, which is document
order, each place once; and the measuring ends with the height of the tree.
-/
theorem walks_follow_recursion (tree : Node)
    : (∀ nodes, HandsOut [tree] nodes ↔ nodes = tree.descendants)
      ∧ tree.descendants = tree.preorder
      ∧ (tree.places.Pairwise Place.Before
        ∧ (∀ place, place ∈ tree.places ↔ (tree.at? place).isSome = true)
        ∧ tree.places.map tree.at? = tree.descendants.map some)
      ∧ (∀ result, Measures 0 [(tree, 0)] result ↔ result = tree.depth)
      ∧ tree.depth = tree.height := by
  refine ⟨fun _ => handsOut_iff, descendants_eq_preorder tree, ⟨pairwise_places tree,
    fun _ => mem_places, ?_⟩, fun _ => measures_iff, depth_eq_height tree⟩
  rw [map_at?_places, descendants_eq_preorder]

end Docpress.Node
