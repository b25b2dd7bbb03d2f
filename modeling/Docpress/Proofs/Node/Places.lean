import Docpress.Proofs.Node.Depth
import Mathlib.Data.List.Basic

/-!
The places of a tree, told by the steps that lead to them from the root. Document order is the order of
places: a place comes before what is below it, and otherwise the first step in which two places differ
decides. So a walk in document order visits every place once.
-/

namespace Docpress.Node

/-- A step down a tree, from a node to one that is nested in it. -/
inductive Step where
  | child (index : Nat)
  | header (column : Nat)
  | cell (row column : Nat)
  deriving DecidableEq, Repr

/-- Children come before header cells and those before body cells, which go row by row. -/
def Step.Before : Step → Step → Prop
  | .child left, .child right => left < right
  | .child _, .header _ => True
  | .child _, .cell .. => True
  | .header left, .header right => left < right
  | .header _, .cell .. => True
  | .cell row column, .cell row' column' => row < row' ∨ (row = row' ∧ column < column')
  | _, _ => False

/-- The way to a node of a tree from its root. -/
abbrev Place := List Step

/-- Whether a place comes before another one in document order. -/
abbrev Place.Before : Place → Place → Prop := List.Lex Step.Before

/-- Where a step from a node leads to, if there is something. -/
def step? : Node → Step → Option Node
  | .plain _ children, .child index => children[index]?
  | .table children _ _, .child index => children[index]?
  | .table _ headers _, .header column => headers[column]?
  | .table _ _ rows, .cell row column => rows[row]?.bind (·[column]?)
  | .plain .., _ => none

/-- The node in a place. -/
def at? (node : Node) : Place → Option Node
  | [] => some node
  | step :: place => (node.step? step).bind (at? · place)

/-- Nodes in a row, each with the step to it. -/
def numbered (step : Nat → Step) (nodes : List Node) : List (Step × Node) :=
  nodes.zipIdx.map fun (node, index) => (step index, node)

/-- The cells of the rows of a table, each with the step to it. -/
def numberedRows (rows : List (List Node)) : List (Step × Node) :=
  rows.zipIdx.flatMap fun (cells, row) => numbered (.cell row) cells

/-- The steps from a node, in order, each with the node that it leads to. -/
def steps : Node → List (Step × Node)
  | .plain _ children => numbered .child children
  | .table children headers rows =>
    numbered .child children ++ (numbered .header headers ++ numberedRows rows)

-----------------------------------------------------------------------------------------
-- The steps from a node
-----------------------------------------------------------------------------------------

section

variable {step : Nat → Step} {nodes : List Node} {rows : List (List Node)} {entry : Step × Node}

/-- The nodes that are numbered are the nodes, in their order. -/
theorem map_snd_numbered : (numbered step nodes).map Prod.snd = nodes := by
  rw [numbered, List.map_map]
  exact List.zipIdx_map_fst 0 nodes

/-- A node is numbered by the step with the index at which it stands. -/
theorem mem_numbered
    : entry ∈ numbered step nodes ↔ ∃ index, entry.1 = step index ∧ nodes[index]? = some entry.2 := by
  obtain ⟨taken, below⟩ := entry
  simp only [numbered, List.mem_map, Prod.exists, Prod.mk.injEq, List.mk_mem_zipIdx_iff_getElem?]
  constructor
  · rintro ⟨node, index, found, rfl, rfl⟩
    exact ⟨index, rfl, found⟩
  · rintro ⟨index, rfl, found⟩
    exact ⟨below, index, found, rfl, rfl⟩

/-- What stands in a list at increasing indices, for a relation that holds of increasing indices. -/
theorem pairwise_zipIdx {α : Type} {related : Nat → Nat → Prop}
    (rising : ∀ {left right}, left < right → related left right) (items : List α)
    : items.zipIdx.Pairwise fun left right => related left.2 right.2 := by
  have indices : (items.zipIdx.map Prod.snd).Pairwise related := by
    rw [List.zipIdx_map_snd]
    exact List.Pairwise.imp rising List.pairwise_lt_range'
  exact List.pairwise_map.mp indices

/-- Numbered nodes are in order if the steps go up with the index. -/
theorem pairwise_numbered
    (rising : ∀ {left right}, left < right → (step left).Before (step right))
    : (numbered step nodes).Pairwise fun left right => left.1.Before right.1 :=
  List.pairwise_map.mpr (pairwise_zipIdx rising nodes)

/-- The cells that are numbered are those of the rows, one row after another. -/
theorem map_snd_numberedRows : (numberedRows rows).map Prod.snd = rows.flatten := by
  rw [numberedRows, List.map_flatMap]
  simp only [map_snd_numbered]
  rw [List.flatMap_def, List.zipIdx_map_fst]

/-- A cell is numbered by its row and its column. -/
theorem mem_numberedRows
    : entry ∈ numberedRows rows
      ↔ ∃ row column,
          entry.1 = .cell row column ∧ rows[row]?.bind (·[column]?) = some entry.2 := by
  simp only [numberedRows, List.mem_flatMap, Prod.exists, List.mk_mem_zipIdx_iff_getElem?,
    mem_numbered, Option.bind_eq_some_iff]
  constructor
  · rintro ⟨cells, row, listed, column, taken, found⟩
    exact ⟨row, column, taken, cells, listed, found⟩
  · rintro ⟨row, column, taken, cells, listed, found⟩
    exact ⟨cells, row, listed, column, taken, found⟩

/-- Numbered cells are in order: by their columns in one row, and by their rows otherwise. -/
theorem pairwise_numberedRows
    : (numberedRows rows).Pairwise fun left right => left.1.Before right.1 := by
  rw [numberedRows, List.pairwise_flatMap]
  constructor
  · intro (cells, row) _
    exact pairwise_numbered fun further => Or.inr ⟨rfl, further⟩
  · refine (pairwise_zipIdx id rows).imp fun lower left here right there => ?_
    obtain ⟨column, taken, _⟩ := mem_numbered.mp here
    obtain ⟨column', taken', _⟩ := mem_numbered.mp there
    rw [taken, taken']
    exact Or.inl lower

end

/-- The steps from a node lead to what is nested in it, in document order. -/
theorem map_snd_steps (node : Node) : node.steps.map Prod.snd = node.nested := by
  cases node with
  | plain kind children => exact map_snd_numbered
  | table children headers rows =>
      simp only [steps, nested, List.map_append, map_snd_numbered, map_snd_numberedRows,
        List.append_assoc]

/-- A step from a node is one that can be taken, by cases on the step. -/
theorem mem_steps {node : Node} {entry : Step × Node}
    : entry ∈ node.steps ↔ node.step? entry.1 = some entry.2 := by
  obtain ⟨step, below⟩ := entry
  cases node with
  | plain kind children => cases step <;> simp [steps, step?, mem_numbered]
  | table children headers rows =>
      cases step <;> simp [steps, step?, mem_numbered, mem_numberedRows]

/-- The steps from a node are in order: to its children, to its headers and then to its cells. -/
theorem pairwise_steps (node : Node)
    : node.steps.Pairwise fun left right => left.1.Before right.1 := by
  cases node with
  | plain kind children => exact pairwise_numbered id
  | table children headers rows =>
      refine List.pairwise_append.mpr ⟨pairwise_numbered id, List.pairwise_append.mpr
        ⟨pairwise_numbered id, pairwise_numberedRows, ?_⟩, ?_⟩
      · intro left here right there
        obtain ⟨_, header, _⟩ := mem_numbered.mp here
        obtain ⟨_, _, cell, _⟩ := mem_numberedRows.mp there
        rw [header, cell]
        trivial
      · intro left here right there
        obtain ⟨_, child, _⟩ := mem_numbered.mp here
        rw [child]
        rcases List.mem_append.mp there with there | there
        · obtain ⟨_, header, _⟩ := mem_numbered.mp there
          rw [header]
          trivial
        · obtain ⟨_, _, cell, _⟩ := mem_numberedRows.mp there
          rw [cell]
          trivial

/-- A step leads to what is nested in a node, so that it is smaller. -/
theorem mem_nested_of_mem_steps {node : Node} {entry : Step × Node} (member : entry ∈ node.steps)
    : entry.2 ∈ node.nested := by
  rw [← map_snd_steps]
  exact List.mem_map_of_mem member

-----------------------------------------------------------------------------------------
-- The places of a tree
-----------------------------------------------------------------------------------------

/-- The places of a tree, in document order. -/
def places (node : Node) : List Place :=
  [] :: node.steps.attach.flatMap fun ⟨entry, _⟩ => entry.2.places.map (entry.1 :: ·)
termination_by node.count
decreasing_by exact count_lt_of_mem_nested (mem_nested_of_mem_steps ‹_›)

/-- The places in a tree: its root, and behind each step the places in what it leads to. -/
theorem places_eq (node : Node)
    : node.places
      = [] :: node.steps.flatMap fun entry => entry.2.places.map (entry.1 :: ·) := by
  rw [places]
  simp only [List.flatMap_subtype, List.unattach_attach]

/-- The places of a tree are those where something is, by induction on the way there. -/
theorem mem_places {tree : Node} {place : Place}
    : place ∈ tree.places ↔ (tree.at? place).isSome = true := by
  induction place generalizing tree with
  | nil =>
      rw [places_eq]
      simp [at?]
  | cons step place ih =>
      rw [places_eq]
      simp only [List.mem_cons, reduceCtorEq, false_or, List.mem_flatMap, List.mem_map,
        List.cons.injEq, mem_steps, at?]
      constructor
      · rintro ⟨⟨taken, below⟩, found, rest, member, rfl, rfl⟩
        rw [found]
        exact ih.mp member
      · intro something
        cases found : tree.step? step with
        | none => simp [found] at something
        | some below =>
            rw [found] at something
            exact ⟨(step, below), found, place, ih.mpr something, rfl, rfl⟩

/-- The places in a tree are in document order and none stands twice, by induction on the tree. -/
theorem pairwise_places (tree : Node) : tree.places.Pairwise Place.Before := by
  induction tree using nested_induction with
  | step tree ih =>
      rw [places_eq, List.pairwise_cons, List.pairwise_flatMap]
      refine ⟨?_, ?_, ?_⟩
      · intro place listed
        obtain ⟨entry, _, here⟩ := List.mem_flatMap.mp listed
        obtain ⟨rest, _, rfl⟩ := List.mem_map.mp here
        exact .nil
      · intro entry member
        rw [List.pairwise_map]
        exact (ih entry.2 (mem_nested_of_mem_steps member)).imp .cons
      · refine (pairwise_steps tree).imp fun earlier left here right there => ?_
        obtain ⟨rest, _, rfl⟩ := List.mem_map.mp here
        obtain ⟨rest', _, rfl⟩ := List.mem_map.mp there
        exact .rel earlier

/-- The places of a tree hold its nodes in the order of the recursion. -/
theorem map_at?_places (tree : Node) : tree.places.map tree.at? = tree.preorder.map some := by
  induction tree using nested_induction with
  | step tree ih =>
      rw [places_eq, preorder_eq_cons_nested, preorderAll_eq_flatMap, ← map_snd_steps,
        List.flatMap_map, List.map_cons, List.map_cons, List.map_flatMap, List.map_flatMap]
      refine congrArg (some tree :: ·) (List.flatMap_congr fun entry member => ?_)
      have step (place : Place) : tree.at? (entry.1 :: place) = entry.2.at? place := by
        rw [at?, mem_steps.mp member, Option.bind_some]
      rw [List.map_map, ← ih entry.2 (mem_nested_of_mem_steps member)]
      exact List.map_congr_left fun place _ => step place

end Docpress.Node
