import Docpress.Proofs.Node.CodeBlocks

/-!
The calls that the conversion of a document makes. A call is decided by what the calls in it come to, and
fails on its own only where a node is below the deepest level; the conversion of a document answers each
of these calls.
-/

namespace Docpress

namespace Table

open Fallible

variable {α β ε : Type} {f g : α → Except ε β} {table : Table α}

/-- The cells of a table are converted in order, each of them for itself. -/
theorem tryMap_congr (same : ∀ cell ∈ table.headers ++ table.rows.flatten, f cell = g cell)
    : table.tryMap f = table.tryMap g := by
  obtain ⟨heads, body⟩ := List.forall_mem_append.mp same
  have rows : table.rows.mapM (·.mapM f) = table.rows.mapM (·.mapM g) :=
    mapM_congr fun row listed => mapM_congr fun cell member =>
      body cell (List.mem_flatten_of_mem listed member)
  rw [tryMap, tryMap, mapM_congr heads, rows]

/-- The conversion of a table fails with the error of one of its cells. -/
theorem exists_of_tryMap_eq_error {error : ε} (failure : table.tryMap f = .error error)
    : ∃ cell ∈ table.headers ++ table.rows.flatten, f cell = .error error := by
  rcases bind_eq_error_iff.mp failure with heads | ⟨headers, _, failure⟩
  · obtain ⟨cell, member, failed⟩ := exists_of_mapM_eq_error heads
    exact ⟨cell, List.mem_append_left _ member, failed⟩
  · rcases bind_eq_error_iff.mp failure with body | ⟨rows, _, done⟩
    · obtain ⟨row, listed, failed⟩ := exists_of_mapM_eq_error body
      obtain ⟨cell, member, failed⟩ := exists_of_mapM_eq_error failed
      exact ⟨cell, List.mem_append_right _ (List.mem_flatten_of_mem listed member), failed⟩
    · cases done

end Table

namespace Node

open Fallible Markdown

/-- What conversion calls itself with, and the level of what this becomes. The root is on level 0. -/
inductive Call where
  | document (source : String)
  | block (level : Nat) (block : Block (List Inline))
  | item (level : Nat) (blocks : List (Block (List Inline)))
  | inline (level : Nat) (content : Inline)
  /-- The text of a cell, for a table on the level. -/
  | cell (level : Nat) (text : String)

namespace Call

/-- What a call gives: a block becomes one node or none, anything else becomes one. -/
abbrev Result : Call → Type
  | .block .. => List Node
  | _ => Node

/-- An answer to every call. -/
abbrev Answers := (call : Call) → Except RenderError call.Result

/-- Whether a call is for a node below the deepest level. The text of a cell is read without a check. -/
def isDeep : Call → Bool
  | .document _ | .cell .. => false
  | .block level _ | .item level _ | .inline level _ => maxNesting < level

/-- What a call that is not too deep comes to, given the answers to the calls that it makes. -/
def inside (read : BlockReader) (options : RenderOptions) (answer : Answers) : Answers
  | .document source =>
    ((read source).mapM fun content => answer (.block 1 content)).map fun nodes =>
      plain .document nodes.flatten
  | .item level blocks =>
    (blocks.mapM fun content => answer (.block (level + 1) content)).map fun nodes =>
      plain .listItem nodes.flatten
  | .cell level text =>
    (cellChildren (fun piece => answer (.inline (level + 2) piece))
      (fun content => answer (.block (level + 2) content)) (read text)).map (plain .tableCell)
  | .inline level content =>
    let below (children : List Inline) : Except RenderError (List Node) :=
      children.mapM fun child => answer (.inline (level + 1) child)
    match content with
    | .text value => .ok (text value)
    | .softBreak => .ok (leaf .softBreak)
    | .lineBreak => .ok (leaf .lineBreak)
    | .code literal => .ok (code literal)
    | .html markup => .ok (leaf (.html markup))
    | .emphasis children => (below children).map (plain .emphasis)
    | .strong children => (below children).map (plain .strong)
    | .strikethrough children => (below children).map (plain .strikethrough)
    | .link target title children =>
      (below children).map (plain (.link (nonEmpty? target) (nonEmpty? title) .empty))
    | .image source title children =>
      (below children).map fun children =>
        leaf (.image source (textOfAll children) (nonEmpty? title) .empty)
    | .other tag children => (below children).map (plain (.other tag))
  | .block level content =>
    let below (children : List (Block (List Inline))) : Except RenderError (List (List Node)) :=
      children.mapM fun child => answer (.block (level + 1) child)
    let running (content : List Inline) : Except RenderError (List Node) :=
      content.mapM fun piece => answer (.inline (level + 1) piece)
    let gridCell (content : List Inline) : Except RenderError Node :=
      (content.mapM fun piece => answer (.inline (level + 2) piece)).map (plain .tableCell)
    match content with
    | .frontMatter _ => .ok []
    | .paragraph content => (running content).map fun nodes => [plain .paragraph nodes]
    | .heading rank content => (running content).map fun nodes => [plain (.heading rank) nodes]
    | .thematicBreak => .ok [leaf .thematicBreak]
    | .html markup => .ok [leaf (.html markup)]
    | .quote children => (below children).map fun nodes => [plain .blockQuote nodes.flatten]
    | .other tag children => (below children).map fun nodes => [plain (.other tag) nodes.flatten]
    | .list start items =>
      (items.mapM fun blocks => answer (.item (level + 1) blocks)).map fun nodes =>
        [plain (.list start.isSome start) nodes]
    | .table headers rows =>
      ((Table.mk headers rows).tryMap gridCell).map fun cells => [table [] cells.headers cells.rows]
    | .code info literal =>
      let language := infoLanguage? info
      match structuredTable? options language literal with
      | none => .ok [ofCode language literal]
      | some cells =>
        (cells.tryMap fun value => answer (.cell level (cellText value))).map fun cells =>
          [table [] cells.headers cells.rows]

/-- What a call comes to, given the answers to the calls that it makes. Nothing but the check of the level
keeps these from going on.
-/
def body (read : BlockReader) (options : RenderOptions) (answer : Answers) (call : Call)
    : Except RenderError call.Result :=
  if call.isDeep then .error tooDeep else call.inside read options answer

/-- The calls for a block of the text of a cell. A paragraph gives its running text alone. -/
def cellCalls (level : Nat) : Block (List Inline) → List Call
  | .paragraph content => content.map (.inline level)
  | content => [.block level content]

/-- The calls that a call makes if it is not too deep, or would make if those before them did not fail. -/
def callsInside (read : BlockReader) (options : RenderOptions) : Call → List Call
  | .document source => (read source).map (.block 1)
  | .item level blocks => blocks.map (.block (level + 1))
  | .cell level text => (read text).flatMap (cellCalls (level + 2))
  | .inline level content =>
    match content with
    | .emphasis children | .strong children | .strikethrough children | .link _ _ children
    | .image _ _ children | .other _ children => children.map (.inline (level + 1))
    | _ => []
  | .block level content =>
    match content with
    | .paragraph content | .heading _ content => content.map (.inline (level + 1))
    | .quote children | .other _ children => children.map (.block (level + 1))
    | .list _ items => items.map (.item (level + 1))
    | .table headers rows => (headers ++ rows.flatten).flatten.map (.inline (level + 2))
    | .code info literal =>
      match structuredTable? options (infoLanguage? info) literal with
      | none => []
      | some cells =>
        (cells.headers ++ cells.rows.flatten).map fun value => .cell level (cellText value)
    | _ => []

/-- The calls that a call makes. -/
def calls (read : BlockReader) (options : RenderOptions) (call : Call) : List Call :=
  if call.isDeep then [] else call.callsInside read options

/-- The conversion of a document, for every call that it can make. -/
def convert (read : BlockReader) (options : RenderOptions) : Answers
  | .document source => ofSource read options source
  | .block level content => ofBlock read options (maxNesting + 1 - level) content
  | .item level blocks =>
    if maxNesting < level then .error tooDeep
    else
      (blocks.mapM (ofBlock read options (maxNesting - level))).map fun nodes =>
        plain .listItem nodes.flatten
  | .inline level content => ofInline (maxNesting + 1 - level) content
  | .cell level text => inlineCell read options (maxNesting - level) text

variable {read : BlockReader} {options : RenderOptions}

/-- A call for a node below the deepest level fails. -/
theorem convert_of_isDeep {call : Call} (deep : call.isDeep = true)
    : convert read options call = .error tooDeep := by
  cases call with
  | document source | cell level text => cases deep
  | item level blocks => exact if_pos (of_decide_eq_true deep)
  | block level content | inline level content =>
      have none : maxNesting + 1 - level = 0 := Nat.sub_eq_zero_of_le (of_decide_eq_true deep)
      rw [convert, none]
      rfl

/-- Blocks and running text in a cell stand two levels below its table. -/
theorem inlineCell_eq (levels : Nat) (text : String)
    : inlineCell read options levels text
      = (cellChildren (ofInline (levels - 1)) (ofBlock read options (levels - 1)) (read text)).map
          (plain .tableCell) := by
  cases levels <;> rfl

/-- A call that is not too deep goes on with the calls inside it, which count the levels that are left as
it does.
-/
theorem convert_eq_inside {call : Call} (checked : ¬call.isDeep = true)
    : convert read options call = inside read options (convert read options) call := by
  -- The conversion counts the levels that are left, and calls count those that are taken.
  have next (level : Nat) : maxNesting + 1 - (level + 1) = maxNesting - level :=
    Nat.add_sub_add_right ..
  have last (level : Nat) : maxNesting - (level + 1) = maxNesting - level - 1 := rfl
  have left {level : Nat} (checked : ¬decide (maxNesting < level) = true)
      : maxNesting + 1 - level = maxNesting - level + 1 := by
    rw [decide_eq_true_eq] at checked
    omega
  cases call with
  | document source => rfl
  | item level blocks =>
      simp only [convert, inside, if_neg (mt decide_eq_true checked), next]
  | cell level text => simp only [convert, inside, inlineCell_eq, next, last]
  | inline level content =>
      simp only [convert, inside, left checked, next]
      cases content <;> rfl
  | block level content =>
      simp only [convert, inside, left checked, next]
      rw [ofBlock.eq_def]
      cases content with
      | table headers rows =>
          simp only [Table.tryMap, bind_map]
          rfl
      | list start items =>
          refine congrArg (Except.map _) (mapM_congr fun blocks _ => ?_)
          rw [last]
          -- An item checks its level by itself, before its blocks are converted.
          by_cases bottom : maxNesting < level + 1
          · have none : maxNesting - level = 0 := by omega
            simp only [none, if_pos bottom]
          · have some : maxNesting - level = maxNesting - level - 1 + 1 := by omega
            rw [some, if_neg bottom]
            rfl
      | _ => rfl

/-- The conversion does what the calls are there for: it is its own answer. -/
theorem convert_eq_body (call : Call)
    : convert read options call = body read options (convert read options) call := by
  rw [body]
  by_cases deep : call.isDeep = true
  · rw [if_pos deep, convert_of_isDeep deep]
  · rw [if_neg deep, ← convert_eq_inside deep]

/-- What a call comes to depends on the answers to the calls inside it and on nothing else. -/
theorem inside_congr {answer answer' : Answers} {call : Call}
    (same : ∀ inner ∈ call.callsInside read options, answer inner = answer' inner)
    : inside read options answer call = inside read options answer' call := by
  cases call with
  | document source | item level blocks =>
      exact congrArg (Except.map _) (mapM_congr (List.forall_mem_map.mp same))
  | cell level text =>
      refine congrArg (Except.map _) (congrArg (Except.map _) (mapM_congr fun content listed => ?_))
      have here : ∀ inner ∈ cellCalls (level + 2) content, answer inner = answer' inner :=
        fun inner member => same inner (List.mem_flatMap.mpr ⟨content, listed, member⟩)
      cases content with
      | paragraph content => exact mapM_congr (List.forall_mem_map.mp here)
      | _ => exact here _ List.mem_cons_self
  | inline level content =>
      cases content with
      | emphasis | strong | strikethrough | link | image | other =>
          exact congrArg (Except.map _) (mapM_congr (List.forall_mem_map.mp same))
      | _ => rfl
  | block level content =>
      cases content with
      | paragraph | heading | quote | other | list =>
          exact congrArg (Except.map _) (mapM_congr (List.forall_mem_map.mp same))
      | table headers rows =>
          refine congrArg (Except.map _) (Table.tryMap_congr fun content listed => ?_)
          refine congrArg (Except.map _) (mapM_congr fun piece member => ?_)
          exact same _ (List.mem_map_of_mem (List.mem_flatten_of_mem listed member))
      | code info literal =>
          cases structured : structuredTable? options (infoLanguage? info) literal with
          | none => simp only [inside, structured]
          | some cells =>
              simp only [callsInside, structured] at same
              simp only [inside, structured]
              exact congrArg (Except.map _) (Table.tryMap_congr (List.forall_mem_map.mp same))
      | _ => rfl

/-- A call is decided by the answers to the calls that it makes. -/
theorem body_congr {answer answer' : Answers} {call : Call}
    (same : ∀ inner ∈ call.calls read options, answer inner = answer' inner)
    : body read options answer call = body read options answer' call := by
  by_cases deep : call.isDeep = true
  · rw [body, body, if_pos deep, if_pos deep]
  · rw [calls, if_neg deep] at same
    rw [body, body, if_neg deep, if_neg deep, inside_congr same]

/-- A call that is not too deep fails only if one of the calls inside it does, and with its error. -/
theorem inside_failure {answer : Answers} {call : Call} {error : RenderError}
    (failure : inside read options answer call = .error error)
    : ∃ inner ∈ call.callsInside read options, answer inner = .error error := by
  cases call with
  | document source | item level blocks =>
      obtain ⟨content, listed, failed⟩ := exists_of_mapM_eq_error (map_eq_error_iff.mp failure)
      exact ⟨_, List.mem_map_of_mem listed, failed⟩
  | cell level text =>
      have failure := map_eq_error_iff.mp (map_eq_error_iff.mp failure)
      obtain ⟨content, listed, failed⟩ := exists_of_mapM_eq_error failure
      have here : ∃ inner ∈ cellCalls (level + 2) content, answer inner = .error error := by
        cases content with
        | paragraph content =>
            obtain ⟨piece, member, failed⟩ := exists_of_mapM_eq_error failed
            exact ⟨_, List.mem_map_of_mem member, failed⟩
        | _ => exact ⟨_, List.mem_cons_self, failed⟩
      obtain ⟨inner, member, failed⟩ := here
      exact ⟨inner, List.mem_flatMap.mpr ⟨content, listed, member⟩, failed⟩
  | inline level content =>
      cases content with
      | emphasis | strong | strikethrough | link | image | other =>
          obtain ⟨child, listed, failed⟩ := exists_of_mapM_eq_error (map_eq_error_iff.mp failure)
          exact ⟨_, List.mem_map_of_mem listed, failed⟩
      | _ => cases failure
  | block level content =>
      cases content with
      | paragraph | heading | quote | other | list =>
          obtain ⟨child, listed, failed⟩ := exists_of_mapM_eq_error (map_eq_error_iff.mp failure)
          exact ⟨_, List.mem_map_of_mem listed, failed⟩
      | table headers rows =>
          obtain ⟨content, listed, failed⟩ :=
            Table.exists_of_tryMap_eq_error (map_eq_error_iff.mp failure)
          obtain ⟨piece, member, failed⟩ := exists_of_mapM_eq_error (map_eq_error_iff.mp failed)
          exact ⟨_, List.mem_map_of_mem (List.mem_flatten_of_mem listed member), failed⟩
      | code info literal =>
          cases structured : structuredTable? options (infoLanguage? info) literal with
          | none =>
              simp only [inside, structured] at failure
              cases failure
          | some cells =>
              simp only [inside, structured] at failure
              simp only [callsInside, structured]
              obtain ⟨value, listed, failed⟩ :=
                Table.exists_of_tryMap_eq_error (map_eq_error_iff.mp failure)
              exact ⟨_, List.mem_map_of_mem listed, failed⟩
      | _ => cases failure

/-- A call fails for its own level, or because one of the calls that it makes does. -/
theorem body_failure {answer : Answers} {call : Call} {error : RenderError}
    (failure : body read options answer call = .error error)
    : error = tooDeep ∨ ∃ inner ∈ call.calls read options, answer inner = .error error := by
  by_cases deep : call.isDeep = true
  · rw [body, if_pos deep] at failure
    cases failure
    exact Or.inl rfl
  · rw [body, if_neg deep] at failure
    rw [calls, if_neg deep]
    exact Or.inr (inside_failure failure)

end Call

end Node

end Docpress
