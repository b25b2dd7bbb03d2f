import Docpress.Proofs.Node.Calls
import Mathlib.Data.List.Chain

/-!
The end of conversion. The text of a cell is read as a document, and the cell of a table in it likewise, so
conversion follows no tree that is there from the start: only the check of the level ends it.
-/

namespace Docpress.Node

open Fallible Markdown

namespace Call

variable {read : BlockReader} {options : RenderOptions}

/-- The level that a call is on: that of its node, and for the text of a cell that of the table. -/
def level : Call → Nat
  | .document _ => 0
  | .block level _ | .item level _ | .inline level _ | .cell level _ => level

/-- Whether a call reads the text of a cell. -/
def isCell : Call → Bool
  | .cell .. => true
  | _ => false

/-- A call for a node that is not too deep is for a level within the limit. -/
theorem level_le_of_not_isDeep {call : Call} (checked : ¬call.isDeep = true)
    (node : call.isCell = false)
    : call.level ≤ maxNesting := by
  cases call with
  | document source => exact Nat.zero_le _
  | cell level text => cases node
  | block | item | inline => exact Nat.le_of_not_lt (mt decide_eq_true checked)

/-- What a call calls stands below it or reads the text of a cell; what is in such a text stands two levels
below the table.
-/
theorem level_of_mem_callsInside {outer inner : Call}
    (member : inner ∈ outer.callsInside read options)
    : (outer.isCell = true ∧ inner.isCell = false ∧ inner.level = outer.level + 2)
      ∨ (outer.isCell = false
        ∧ if inner.isCell then inner.level = outer.level else outer.level < inner.level) := by
  cases outer with
  | document source =>
      obtain ⟨content, _, rfl⟩ := List.mem_map.mp member
      exact Or.inr ⟨rfl, Nat.zero_lt_one⟩
  | item level blocks =>
      obtain ⟨content, _, rfl⟩ := List.mem_map.mp member
      exact Or.inr ⟨rfl, Nat.lt_succ_self level⟩
  | cell level text =>
      obtain ⟨content, _, here⟩ := List.mem_flatMap.mp member
      cases content with
      | paragraph content =>
          obtain ⟨piece, _, rfl⟩ := List.mem_map.mp here
          exact Or.inl ⟨rfl, rfl, rfl⟩
      | _ =>
          cases List.mem_singleton.mp here
          exact Or.inl ⟨rfl, rfl, rfl⟩
  | inline level content =>
      cases content with
      | emphasis | strong | strikethrough | link | image | other =>
          obtain ⟨child, _, rfl⟩ := List.mem_map.mp member
          exact Or.inr ⟨rfl, Nat.lt_succ_self level⟩
      | _ => cases member
  | block level content =>
      cases content with
      | paragraph | heading | quote | other | list =>
          obtain ⟨child, _, rfl⟩ := List.mem_map.mp member
          exact Or.inr ⟨rfl, Nat.lt_succ_self level⟩
      | table headers rows =>
          obtain ⟨piece, _, rfl⟩ := List.mem_map.mp member
          exact Or.inr ⟨rfl, Nat.lt_add_of_pos_right Nat.zero_lt_two⟩
      | code info literal =>
          cases structured : structuredTable? options (infoLanguage? info) literal with
          | none =>
              simp only [callsInside, structured] at member
              cases member
          | some cells =>
              -- The table makes the cell itself: its text is read without a node and a level of its own.
              simp only [callsInside, structured] at member
              obtain ⟨value, _, rfl⟩ := List.mem_map.mp member
              exact Or.inr ⟨rfl, rfl⟩
      | _ => cases member

/-- The levels of a call and of one that it makes, all that the measure below needs to know. -/
theorem level_of_mem_calls {outer inner : Call} (member : inner ∈ outer.calls read options)
    : (outer.isCell = true ∧ inner.isCell = false ∧ inner.level = outer.level + 2)
      ∨ (outer.isCell = false ∧ outer.level ≤ maxNesting
        ∧ if inner.isCell then inner.level = outer.level else outer.level < inner.level) := by
  by_cases deep : outer.isDeep = true
  · rw [calls, if_pos deep] at member
    cases member
  · rw [calls, if_neg deep] at member
    rcases level_of_mem_callsInside member with within | ⟨node, below⟩
    · exact Or.inl within
    · exact Or.inr ⟨node, level_le_of_not_isDeep deep node, below⟩

/-- How far a call still is from the deepest level. A table is further from it than the texts of its
cells, and these are further than what is in them.
-/
def rank (call : Call) : Nat :=
  if call.isCell then 2 * (maxNesting - call.level) + 1 else 2 * (maxNesting + 1 - call.level)

/-- The rank of the text of a cell: odd, and smaller the deeper it stands. -/
theorem rank_of_isCell {call : Call} (cell : call.isCell = true)
    : call.rank = 2 * (maxNesting - call.level) + 1 := if_pos cell

/-- The rank of a node: even, and smaller the deeper it stands. -/
theorem rank_of_not_isCell {call : Call} (node : call.isCell = false)
    : call.rank = 2 * (maxNesting + 1 - call.level) := by
  rw [rank, node]
  rfl

/-- Calls lead to calls of smaller rank. From a table to the text of its cell the level stays, and the
rank goes down all the same.
-/
theorem rank_lt_of_mem_calls {outer inner : Call} (member : inner ∈ outer.calls read options)
    : inner.rank < outer.rank := by
  rcases level_of_mem_calls member with ⟨outerCell, innerNode, next⟩ | ⟨outerNode, checked, next⟩
  · rw [rank_of_isCell outerCell, rank_of_not_isCell innerNode]
    omega
  · rw [rank_of_not_isCell outerNode]
    cases innerCell : inner.isCell with
    | true =>
        rw [innerCell, if_pos rfl] at next
        rw [rank_of_isCell innerCell]
        omega
    | false =>
        rw [innerCell, if_neg Bool.false_ne_true] at next
        rw [rank_of_not_isCell innerCell]
        omega

/-- What a call comes to once every call that it makes has come to something. A call that would go on
for ever comes to nothing, since only finitely many steps lead to a result.
-/
inductive Returns (read : BlockReader) (options : RenderOptions)
    : (call : Call) → Except RenderError call.Result → Prop where
  | of_calls {call : Call} {answer : Answers}
    (below : ∀ inner ∈ call.calls read options, Returns read options inner (answer inner))
    : Returns read options call (body read options answer call)

/-- Every call ends with what conversion says. -/
theorem returns_convert (call : Call) : Returns read options call (convert read options call) := by
  rw [convert_eq_body]
  exact .of_calls fun inner _ => returns_convert inner
termination_by call.rank
decreasing_by exact rank_lt_of_mem_calls ‹_›

/-- No call ends with anything else, by induction on the calls that have ended. -/
theorem Returns.eq_convert {call : Call} {result : Except RenderError call.Result}
    (returned : Returns read options call result)
    : result = convert read options call := by
  induction returned with
  | of_calls _ ih => rw [convert_eq_body, body_congr ih]

/-- A call returns what the conversion gives, and nothing else. -/
theorem returns_iff {call : Call} {result : Except RenderError call.Result}
    : Returns read options call result ↔ result = convert read options call :=
  ⟨Returns.eq_convert, fun same => same ▸ returns_convert call⟩

/-- A call that fails has come below the deepest level. -/
theorem Returns.failure {call : Call} {result : Except RenderError call.Result} {error : RenderError}
    (returned : Returns read options call result) (failed : result = .error error)
    : error = tooDeep := by
  induction returned with
  | of_calls _ ih =>
      rcases body_failure failed with deep | ⟨inner, member, failed⟩
      · exact deep
      · exact ih inner member failed

/-- A chain of calls, each made by the one before it. -/
def IsCalling (read : BlockReader) (options : RenderOptions) (chain : List Call) : Prop :=
  chain.IsChain fun outer inner => inner ∈ outer.calls read options

/-- A call that another one makes does not stand above it. -/
theorem level_le_of_mem_calls {outer inner : Call} (member : inner ∈ outer.calls read options)
    : outer.level ≤ inner.level := by
  rcases level_of_mem_calls member with ⟨_, _, next⟩ | ⟨_, _, next⟩
  · omega
  · split at next <;> omega

/-- Levels do not fall along a chain of calls. -/
theorem IsCalling.level_le {first : Call} {rest : List Call}
    (calling : IsCalling read options (first :: rest))
    : ∀ inner ∈ rest, first.level ≤ inner.level := by
  induction rest generalizing first with
  | nil => exact fun _ member => nomatch member
  | cons next rest ih =>
      obtain ⟨member, later⟩ := List.isChain_cons_cons.mp calling
      have here := level_le_of_mem_calls member
      exact List.forall_mem_cons.mpr ⟨here, fun inner listed => here.trans (ih later inner listed)⟩

/-- Whatever follows the text of a cell stands two levels below the table. -/
theorem IsCalling.level_le_of_cell {level : Nat} {text : String} {rest : List Call}
    (calling : IsCalling read options (.cell level text :: rest))
    : ∀ inner ∈ rest, level + 2 ≤ inner.level := by
  cases rest with
  | nil => exact fun _ member => nomatch member
  | cons next rest =>
      obtain ⟨member, later⟩ := List.isChain_cons_cons.mp calling
      have here : level + 2 ≤ next.level := by
        rcases level_of_mem_calls member with ⟨_, _, down⟩ | ⟨outerNode, _⟩
        · exact down.ge
        · cases outerNode
      have below := IsCalling.level_le later
      exact List.forall_mem_cons.mpr ⟨here, fun inner listed => here.trans (below inner listed)⟩

/-- The texts of cells in a chain of calls are two levels apart, which takes four off the rank. -/
theorem IsCalling.four_mul_countP_le {first : Call} {rest : List Call}
    (calling : IsCalling read options (first :: rest))
    : 4 * (first :: rest).countP isCell ≤ first.rank + 3 := by
  induction rest generalizing first with
  | nil =>
      have one := List.countP_le_length (p := isCell) (l := [first])
      cases cell : first.isCell with
      | true =>
          rw [rank_of_isCell cell]
          rw [List.length_singleton] at one
          omega
      | false =>
          rw [List.countP_singleton, cell]
          exact Nat.zero_le _
  | cons next rest ih =>
      obtain ⟨member, later⟩ := List.isChain_cons_cons.mp calling
      have below := ih later
      rcases level_of_mem_calls member with ⟨firstCell, nextNode, down⟩ | ⟨firstNode, checked, down⟩
      · rw [List.countP_cons, firstCell, rank_of_isCell firstCell, if_pos rfl]
        rw [rank_of_not_isCell nextNode] at below
        omega
      · have less := rank_lt_of_mem_calls member
        rw [List.countP_cons, firstNode, if_neg Bool.false_ne_true]
        omega

/-- The texts of cells nest at most 64 deep. -/
theorem countP_isCell_le {source : String} {chain : List Call}
    (calling : IsCalling read options (.document source :: chain))
    : chain.countP isCell ≤ 64 := by
  cases chain with
  | nil => exact Nat.zero_le 64
  | cons first rest =>
      obtain ⟨member, later⟩ := List.isChain_cons_cons.mp calling
      obtain ⟨content, _, rfl⟩ := List.mem_map.mp member
      have bounded := IsCalling.four_mul_countP_le later
      have top : rank (.block 1 content) = 256 := rfl
      omega

end Call

/-- The conversion of a document ends, whatever its reader makes of texts, those of cells included: the
calls that it makes come to one result, a tree or that the document nests too deep. The texts of cells
within cells nest at most 64 deep, since all that follows the text of a cell in a chain of calls stands
two levels below the table.
-/
theorem conversion_ends (read : BlockReader) (options : RenderOptions) (source : String)
    : (∀ result, Call.Returns read options (.document source) result
        ↔ result = ofSource read options source)
      ∧ ((∃ tree, ofSource read options source = .ok tree)
        ∨ ofSource read options source = .error tooDeep)
      ∧ ∀ chain, Call.IsCalling read options (.document source :: chain)
        → chain.countP Call.isCell ≤ 64
          ∧ ∀ above level text below, chain = above ++ .cell level text :: below
            → ∀ call ∈ below, level + 2 ≤ call.level := by
  refine ⟨fun result => Call.returns_iff, ?_, fun chain calling => ⟨?_, ?_⟩⟩
  · cases outcome : ofSource read options source with
    | ok tree => exact Or.inl ⟨tree, rfl⟩
    | error error =>
        have deep := (Call.returns_convert (.document source)).failure outcome
        exact Or.inr (congrArg _ deep)
  · exact Call.countP_isCell_le calling
  · rintro above level text below rfl
    have suffix : Call.IsCalling read options (.cell level text :: below) :=
      (List.isChain_append.mp (List.isChain_of_isChain_cons calling)).2.1
    exact suffix.level_le_of_cell

/-- The table whose one cell is read as the same table again. -/
def endlessTable : Block (List Inline) := .code "table" "[[\"\"]]"

/-- A reader that finds the table in every text. -/
def endless : BlockReader := fun _ => [endlessTable]

/-- The calls for a table on a level and for as many tables within its cell as are counted. -/
def endlessCalls (level : Nat) : Nat → List Call
  | 0 => []
  | count + 1 => .block level endlessTable :: .cell level "" :: endlessCalls (level + 2) count

/-- The endless table has a cell whose text is read again, on every level within the limit. -/
theorem cell_mem_calls_endlessTable {level : Nat} (checked : level ≤ maxNesting)
    : .cell level "" ∈ (Call.block level endlessTable).calls endless {} := by
  have texts : (structuredTable? {} (infoLanguage? "table") "[[\"\"]]").map
      (·.headers.map cellText) = some [""] := by decide +kernel
  obtain ⟨cells, structured, headers⟩ := Option.map_eq_some_iff.mp texts
  have unchecked : ¬(Call.block level endlessTable).isDeep = true :=
    mt of_decide_eq_true checked.not_gt
  rw [Call.calls, if_neg unchecked]
  simp only [endlessTable, Call.callsInside, structured]
  obtain ⟨value, listed, empty⟩ := List.mem_map.mp (headers ▸ List.mem_singleton_self "")
  exact List.mem_map.mpr ⟨value, List.mem_append_left _ listed, congrArg _ empty⟩

/-- The endless table leads to a chain of calls as long as there is room, by induction on the pairs of
calls.
-/
theorem endlessCalls_calling {level count : Nat} (room : level + 2 * count ≤ maxNesting + 2)
    {above : Call} (calls : .block level endlessTable ∈ above.calls endless {})
    : Call.IsCalling endless {} (above :: endlessCalls level count) := by
  induction count generalizing level above with
  | zero => exact List.isChain_singleton above
  | succ count ih =>
      have inCell := cell_mem_calls_endlessTable (by omega : level ≤ maxNesting)
      have within : .block (level + 2) endlessTable ∈ (Call.cell level "").calls endless {} :=
        List.mem_singleton_self _
      have later := ih (by omega) within
      exact List.isChain_cons_cons.mpr ⟨calls, List.isChain_cons_cons.mpr ⟨inCell, later⟩⟩

/-- A table that holds itself nests too deep, and 64 texts of cells are read on the way. -/
theorem conversion_of_endless_ends
    : Call.Returns endless {} (.document "") (.error tooDeep)
      ∧ Call.IsCalling endless {} (.document "" :: endlessCalls 1 64)
      ∧ (endlessCalls 1 64).countP Call.isCell = 64
      ∧ ∀ call ∈ endlessCalls 3 63, 3 ≤ call.level := by
  obtain ⟨returned, outcome, bounded⟩ := conversion_ends endless {} ""
  have top : .block 1 endlessTable ∈ (Call.document "").calls endless {} :=
    List.mem_singleton_self _
  have calling := endlessCalls_calling (by decide : 1 + 2 * 64 ≤ maxNesting + 2) top
  have failed : (ofSource endless {} "").toOption = none := by decide +kernel
  have deep : ofSource endless {} "" = .error tooDeep := by
    refine outcome.resolve_left ?_
    rintro ⟨tree, success⟩
    rw [success] at failed
    cases failed
  have apart := (bounded _ calling).2 [.block 1 endlessTable] 1 "" (endlessCalls 3 63) rfl
  exact ⟨(returned _).mpr deep.symm, calling, by decide, apart⟩

end Docpress.Node
