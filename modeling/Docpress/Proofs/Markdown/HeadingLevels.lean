import Docpress.Markdown

/-!
The levels of the headings that the Markdown reader finds: a heading line has one to six marks, and an
underlined heading has level 1 or 2. The invariant is on the blocks that the open containers hold.
-/

namespace Docpress

/-- Whether headings of a level are heading elements in the output. -/
def isHeadingLevel (level : Nat) : Bool :=
  1 ≤ level && level ≤ 6

namespace Markdown

variable {α β : Type}

mutual

/-- The levels of the headings in a block, in order. -/
def Block.headingLevels : Block α → List Nat
  | .heading level _ => [level]
  | .quote children | .other _ children => Block.headingLevelsAll children
  | .list _ items => Block.headingLevelsItems items
  | _ => []

/-- The levels of the headings in a list of blocks. -/
def Block.headingLevelsAll : List (Block α) → List Nat
  | [] => []
  | block :: rest => block.headingLevels ++ Block.headingLevelsAll rest

/-- The levels of the headings in list items. -/
def Block.headingLevelsItems : List (List (Block α)) → List Nat
  | [] => []
  | item :: rest => Block.headingLevelsAll item ++ Block.headingLevelsItems rest

end

/-- The heading levels of blocks are those of each block, by induction on the blocks. -/
theorem Block.headingLevelsAll_eq_flatMap (blocks : List (Block α))
    : Block.headingLevelsAll blocks = blocks.flatMap Block.headingLevels := by
  induction blocks with
  | nil => rfl
  | cons block rest ih => rw [Block.headingLevelsAll, List.flatMap_cons, ih]

/-- The heading levels of list items are those of each item, by induction on the items. -/
theorem Block.headingLevelsItems_eq_flatMap (items : List (List (Block α)))
    : Block.headingLevelsItems items = items.flatMap Block.headingLevelsAll := by
  induction items with
  | nil => rfl
  | cons item rest ih => rw [Block.headingLevelsItems, List.flatMap_cons, ih]

-----------------------------------------------------------------------------------------
-- Later passes over the blocks leave the levels alone
-----------------------------------------------------------------------------------------

mutual

/-- Changing what blocks hold keeps their heading levels, by induction on the block. -/
theorem Block.headingLevels_map (f : α → β) (block : Block α)
    : (block.map f).headingLevels = block.headingLevels := by
  cases block with
  | quote children | other tag children =>
      rw [Block.map, Block.headingLevels, Block.headingLevels, Block.headingLevels_mapAll f children]
  | list start items =>
      rw [Block.map, Block.headingLevels, Block.headingLevels, Block.headingLevels_mapItems f items]
  | _ => rfl

/-- Changing what blocks hold keeps the heading levels of all of them. -/
theorem Block.headingLevels_mapAll (f : α → β) (blocks : List (Block α))
    : Block.headingLevelsAll (Block.mapAll f blocks) = Block.headingLevelsAll blocks := by
  cases blocks with
  | nil => rfl
  | cons block rest =>
      rw [Block.mapAll, Block.headingLevelsAll, Block.headingLevelsAll,
        Block.headingLevels_map f block, Block.headingLevels_mapAll f rest]

/-- Changing what blocks hold keeps the heading levels of list items. -/
theorem Block.headingLevels_mapItems (f : α → β) (items : List (List (Block α)))
    : Block.headingLevelsItems (Block.mapItems f items) = Block.headingLevelsItems items := by
  cases items with
  | nil => rfl
  | cons item rest =>
      rw [Block.mapItems, Block.headingLevelsItems, Block.headingLevelsItems,
        Block.headingLevels_mapAll f item, Block.headingLevels_mapItems f rest]

end

mutual

/-- Without its task markers a block has the headings that it had, by induction on the block. -/
theorem Block.headingLevels_dropTaskMarkers (block : Block (List Inline))
    : block.dropTaskMarkers.headingLevels = block.headingLevels := by
  cases block with
  | quote children | other tag children =>
      rw [Block.dropTaskMarkers, Block.headingLevels, Block.headingLevels,
        Block.headingLevels_dropTaskMarkersAll children]
  | list start items =>
      rw [Block.dropTaskMarkers, Block.headingLevels, Block.headingLevels,
        Block.headingLevels_dropTaskMarkersItems items]
  | _ => rfl

/-- Without their task markers blocks have the headings that they had. -/
theorem Block.headingLevels_dropTaskMarkersAll (blocks : List (Block (List Inline)))
    : Block.headingLevelsAll (Block.dropTaskMarkersAll blocks)
      = Block.headingLevelsAll blocks := by
  cases blocks with
  | nil => rfl
  | cons block rest =>
      rw [Block.dropTaskMarkersAll, Block.headingLevelsAll, Block.headingLevelsAll,
        Block.headingLevels_dropTaskMarkers block, Block.headingLevels_dropTaskMarkersAll rest]

/-- Without their task markers list items have the headings that they had. A marker is taken from a
paragraph at most, which is no heading.
-/
theorem Block.headingLevels_dropTaskMarkersItems (items : List (List (Block (List Inline))))
    : Block.headingLevelsItems (Block.dropTaskMarkersItems items)
      = Block.headingLevelsItems items := by
  match items with
  | [] => rfl
  | [] :: items =>
      rw [Block.dropTaskMarkersItems, Block.headingLevelsItems, Block.headingLevelsItems,
        Block.headingLevels_dropTaskMarkersItems items]
  | (block :: rest) :: items =>
      have head := Block.headingLevels_dropTaskMarkers block
      cases block <;>
        simp only [Block.dropTaskMarkersItems, Block.headingLevelsItems, Block.headingLevelsAll,
          Block.headingLevels_dropTaskMarkersAll rest,
          Block.headingLevels_dropTaskMarkersItems items, head]
      rfl

end

-----------------------------------------------------------------------------------------
-- The invariant of the open blocks
-----------------------------------------------------------------------------------------

/-- Every heading in the block has a level from 1 to 6. -/
def Block.LevelsValid (block : Block α) : Prop :=
  ∀ level ∈ block.headingLevels, isHeadingLevel level = true

/-- A block without headings has no heading of a wrong level. -/
theorem Block.levelsValid_of_no_headings {block : Block α} (none : block.headingLevels = [])
    : block.LevelsValid := by
  intro level member
  rw [none] at member
  cases member

/-- The heading levels of a list are valid if those of the blocks of its items are. -/
theorem Block.levelsValid_list {start : Option Nat} {items : List (List (Block α))}
    (valid : ∀ item ∈ items, ∀ block ∈ item, block.LevelsValid)
    : (Block.list start items).LevelsValid := by
  intro level member
  rw [Block.headingLevels, Block.headingLevelsItems_eq_flatMap] at member
  obtain ⟨item, listed, member⟩ := List.mem_flatMap.mp member
  rw [Block.headingLevelsAll_eq_flatMap] at member
  obtain ⟨block, here, member⟩ := List.mem_flatMap.mp member
  exact valid item listed block here level member

/-- The heading levels of a quote are valid if those of its blocks are. -/
theorem Block.levelsValid_quote {children : List (Block α)}
    (valid : ∀ block ∈ children, block.LevelsValid)
    : (Block.quote children).LevelsValid := by
  intro level member
  rw [Block.headingLevels, Block.headingLevelsAll_eq_flatMap] at member
  obtain ⟨block, here, member⟩ := List.mem_flatMap.mp member
  exact valid block here level member

/-- Every heading that an open container holds already has a level from 1 to 6. -/
def Frame.LevelsValid : Frame → Prop
  | .quote done => ∀ block ∈ done, block.LevelsValid
  | .list _ _ items => ∀ item ∈ items, ∀ block ∈ item, block.LevelsValid
  | .item _ done => ∀ block ∈ done, block.LevelsValid

namespace OpenBlocks

/-- Every finished heading has a level from 1 to 6. Leaves that are still open are no headings. -/
def LevelsValid (blocks : OpenBlocks) : Prop :=
  (∀ block ∈ blocks.done, block.LevelsValid) ∧ ∀ frame ∈ blocks.frames, frame.LevelsValid

variable {blocks : OpenBlocks}

/-- A block with valid levels can be put where blocks are added, be it at the outside or in the innermost
frame.
-/
theorem LevelsValid.push (valid : blocks.LevelsValid) {block : Block (List Char)}
    (fine : block.LevelsValid)
    : (blocks.push block).LevelsValid := by
  obtain ⟨done, frames, leaf, references⟩ := blocks
  obtain ⟨outside, inside⟩ := valid
  cases frames with
  | nil => exact ⟨List.forall_mem_cons.mpr ⟨fine, outside⟩, inside⟩
  | cons frame outer =>
      obtain ⟨here, further⟩ := List.forall_mem_cons.mp inside
      refine ⟨?_, ?_⟩
      · cases frame <;> exact outside
      · cases frame with
        | quote done =>
            exact List.forall_mem_cons.mpr ⟨List.forall_mem_cons.mpr ⟨fine, here⟩, further⟩
        | item indent done =>
            exact List.forall_mem_cons.mpr ⟨List.forall_mem_cons.mpr ⟨fine, here⟩, further⟩
        | list kind start items =>
            refine List.forall_mem_cons.mpr ⟨?_, further⟩
            exact List.forall_mem_cons.mpr ⟨List.forall_mem_singleton.mpr fine, here⟩

/-- The invariant says nothing about the open leaf and the references. -/
theorem LevelsValid.withLeaf (valid : blocks.LevelsValid) (leaf : Leaf) (references : References)
    : { blocks with leaf := leaf, references := references }.LevelsValid :=
  valid

/-- An item with valid levels can be put into the open list, or become a list of its own where none is
open.
-/
theorem LevelsValid.pushItem (valid : blocks.LevelsValid) {item : List (Block (List Char))}
    (fine : ∀ block ∈ item, block.LevelsValid)
    : (blocks.pushItem item).LevelsValid := by
  have single : (Block.list none [item]).LevelsValid :=
    Block.levelsValid_list (List.forall_mem_singleton.mpr fine)
  unfold OpenBlocks.pushItem
  split
  next kind start items outer open_ =>
    obtain ⟨outside, inside⟩ := valid
    rw [open_] at inside
    obtain ⟨here, further⟩ := List.forall_mem_cons.mp inside
    exact ⟨outside, List.forall_mem_cons.mpr ⟨List.forall_mem_cons.mpr ⟨fine, here⟩, further⟩⟩
  next => exact valid.push single

/-- The block of a leaf is never a heading. -/
theorem levelsValid_finishLeaf {references after : References} {leaf : Leaf}
    {block : Block (List Char)} (made : finishLeaf references leaf = (after, some block))
    : block.LevelsValid := by
  cases leaf with
  | none => cases made
  | paragraph lines noTable =>
      simp only [finishLeaf, Prod.mk.injEq] at made
      obtain ⟨_, same⟩ := made
      split at same
      · cases same
      · cases same
        exact Block.levelsValid_of_no_headings rfl
  | _ =>
      cases made
      exact Block.levelsValid_of_no_headings rfl

/-- Closing the leaf keeps the levels valid: what a leaf becomes is a block with valid levels. -/
theorem LevelsValid.closeLeaf (valid : blocks.LevelsValid) : blocks.closeLeaf.LevelsValid := by
  unfold OpenBlocks.closeLeaf
  cases made : finishLeaf blocks.references blocks.leaf with
  | mk references block =>
      cases block with
      | none => exact valid
      | some block =>
          exact (valid.withLeaf .none references).push (levelsValid_finishLeaf made)

/-- Closing a frame keeps the levels valid: its blocks become a block of the frame around it, by cases on
the frame.
-/
theorem LevelsValid.closeFrame (valid : blocks.LevelsValid) : blocks.closeFrame.LevelsValid := by
  obtain ⟨done, frames, leaf, references⟩ := blocks
  obtain ⟨outside, inside⟩ := valid
  cases frames with
  | nil => exact ⟨outside, inside⟩
  | cons frame outer =>
      obtain ⟨here, further⟩ := List.forall_mem_cons.mp inside
      have rest : LevelsValid ⟨done, outer, leaf, references⟩ := ⟨outside, further⟩
      cases frame with
      | quote done =>
          exact rest.push (Block.levelsValid_quote fun block member =>
            here block (List.mem_reverse.mp member))
      | list kind start items =>
          exact rest.push (Block.levelsValid_list fun item member =>
            here item (List.mem_reverse.mp member))
      | item indent done =>
          exact rest.pushItem fun block member => here block (List.mem_reverse.mp member)

/-- Closing frames keeps the levels valid, by induction on their number. -/
theorem LevelsValid.closeFrames (valid : blocks.LevelsValid) (count : Nat)
    : (closeFrames count blocks).LevelsValid := by
  induction count generalizing blocks with
  | zero => exact valid
  | succ count ih => exact ih valid.closeFrame

/-- Closing the leaf and some of the frames keeps the levels valid. -/
theorem LevelsValid.close (valid : blocks.LevelsValid) (count : Nat)
    : (blocks.close count).LevelsValid :=
  valid.closeLeaf.closeFrames count

/-- Closing what must not stay open in front of a new block keeps the levels valid. -/
theorem LevelsValid.makeRoom (valid : blocks.LevelsValid) : blocks.makeRoom.LevelsValid := by
  simp only [OpenBlocks.makeRoom]
  split
  · exact valid.closeLeaf.closeFrame
  · exact valid.closeLeaf

/-- A block with valid levels can be added. -/
theorem LevelsValid.add (valid : blocks.LevelsValid) {block : Block (List Char)}
    (fine : block.LevelsValid)
    : (blocks.add block).LevelsValid :=
  valid.makeRoom.push fine

/-- Opening a leaf keeps the levels valid, since a leaf is no block before it is closed. -/
theorem LevelsValid.openLeaf (valid : blocks.LevelsValid) (leaf : Leaf)
    : (blocks.openLeaf leaf).LevelsValid :=
  valid.makeRoom

/-- A frame with valid levels can be opened. -/
theorem LevelsValid.openFrame (valid : blocks.LevelsValid) {frame : Frame}
    (fine : frame.LevelsValid)
    : { blocks with frames := frame :: blocks.frames }.LevelsValid :=
  ⟨valid.1, List.forall_mem_cons.mpr ⟨fine, valid.2⟩⟩

/-- Opening an item keeps the levels valid, in the list that is open or in a new one. Both are empty at
first.
-/
theorem LevelsValid.openItem (valid : blocks.LevelsValid) (marker : BlockStart.ItemMarker)
    (indent : Nat)
    : (blocks.openItem marker indent).LevelsValid := by
  have closed := valid.closeLeaf
  have list : Frame.LevelsValid (.list marker.kind marker.start []) :=
    fun _ member => nomatch member
  have item : Frame.LevelsValid (.item indent []) := fun _ member => nomatch member
  simp only [OpenBlocks.openItem]
  split
  next kind start items outer open_ =>
    split
    · exact (open_ ▸ closed.openFrame item : _)
    · exact (closed.closeFrame.openFrame list).openFrame item
  next => exact (closed.openFrame list).openFrame item

/-- Opening a quote keeps the levels valid, since it is empty at first. -/
theorem LevelsValid.openQuote (valid : blocks.LevelsValid) : blocks.openQuote.LevelsValid :=
  valid.makeRoom.openFrame fun _ member => nomatch member

/-- Once everything is closed, the blocks of the document have valid levels. -/
theorem LevelsValid.finish (valid : blocks.LevelsValid)
    : ∀ block ∈ blocks.finish.1, block.LevelsValid :=
  fun block member => (valid.close blocks.frames.length).1 block (List.mem_reverse.mp member)

end OpenBlocks

-----------------------------------------------------------------------------------------
-- Every line keeps the invariant
-----------------------------------------------------------------------------------------

/-- Whatever becomes of a line, the blocks that it leaves satisfy the invariant. -/
def LineStep.LevelsValid : LineStep → Prop
  | .opened blocks _ | .finished blocks | .text blocks => blocks.LevelsValid

/-- A heading that is started by number signs has a level from one to six. -/
theorem isHeadingLevel_of_heading? {content text : List Char} {level : Nat}
    (found : BlockStart.heading? content = some (level, text))
    : isHeadingLevel level = true := by
  simp only [BlockStart.heading?] at found
  split at found
  next within =>
    cases found
    simp only [isHeadingLevel, within.1, within.2.1, decide_true, Bool.and_self]
  next => cases found

/-- A heading that is underlined has level one or two. -/
theorem isHeadingLevel_of_underline? {content : List Char} {level : Nat}
    (found : BlockStart.underline? content = some level)
    : isHeadingLevel level = true := by
  simp only [BlockStart.underline?] at found
  split at found
  · cases found
    rfl
  · split at found
    · cases found
      rfl
    · cases found

/-- A heading has valid levels if its own level is valid. -/
theorem Block.levelsValid_heading {level : Nat} (fine : isHeadingLevel level = true)
    (content : α)
    : (Block.heading level content).LevelsValid :=
  List.forall_mem_singleton.mpr fine

namespace OpenBlocks

variable {blocks : OpenBlocks}

/-- A line of raw HTML keeps the levels valid, whether or not it is the last of its block. -/
theorem LevelsValid.addHtmlLine (valid : blocks.LevelsValid) (kind : RawHtml.BlockKind)
    (lines : List (List Char)) (cursor : Cursor)
    : (blocks.addHtmlLine kind lines cursor).LevelsValid := by
  have opened := valid.withLeaf (.html kind (cursor.literal :: lines)) blocks.references
  simp only [OpenBlocks.addHtmlLine]
  split
  · exact opened.closeLeaf
  · exact opened

/-- A heading with number signs keeps the levels valid. -/
theorem LevelsValid.startHeading? (valid : blocks.LevelsValid) (cursor : Cursor)
    : ∀ step ∈ blocks.startHeading? cursor, step.LevelsValid := by
  intro step member
  obtain ⟨⟨level, text⟩, found, rfl⟩ := Option.map_eq_some_iff.mp member
  exact valid.add (Block.levelsValid_heading (isHeadingLevel_of_heading? found) _)

/-- An underline keeps the levels valid, where it makes a paragraph a heading and where it does not. -/
theorem LevelsValid.startUnderline? (valid : blocks.LevelsValid) (cursor : Cursor)
    : ∀ step ∈ blocks.startUnderline? cursor, step.LevelsValid := by
  intro step member
  simp only [OpenBlocks.startUnderline?, Option.mem_def] at member
  split at member
  next lines noTable level _ found =>
    split at member
    · cases member
      exact valid
    · cases member
      exact (valid.withLeaf .none _).push
        (Block.levelsValid_heading (isHeadingLevel_of_underline? found) _)
  next => cases member

/-- A list marker keeps the levels valid. -/
theorem LevelsValid.startItem? (valid : blocks.LevelsValid) (cursor : Cursor)
    : ∀ step ∈ blocks.startItem? cursor, step.LevelsValid := by
  intro step member
  obtain ⟨marker, _, rfl⟩ := Option.map_eq_some_iff.mp member
  dsimp only
  split
  · exact valid.openItem marker _
  · exact valid.openItem marker _

/-- The start of a table keeps the levels valid: the lines in front of it become a paragraph. -/
theorem LevelsValid.startTable (valid : blocks.LevelsValid) (lines : List (List Char))
    (cursor : Cursor)
    : (OpenBlocks.startTable lines cursor blocks).LevelsValid := by
  have before (lines : List (List Char))
      : (OpenBlocks.addLinesBeforeTable lines { blocks with leaf := .none }).LevelsValid := by
    simp only [OpenBlocks.addLinesBeforeTable]
    split
    · exact valid
    · exact (valid.withLeaf .none blocks.references).push
        (Block.levelsValid_of_no_headings rfl)
  cases lines with
  | nil => exact valid
  | cons headerLine lines =>
      simp only [OpenBlocks.startTable]
      split
      · split
        · exact before lines
        · exact valid
      · exact valid

/-- A line that may belong to a table keeps the levels valid. -/
theorem LevelsValid.startRow? (valid : blocks.LevelsValid) (cursor : Cursor)
    : ∀ step ∈ blocks.startRow? cursor, step.LevelsValid := by
  intro step member
  simp only [OpenBlocks.startRow?, Option.mem_def] at member
  split at member
  next lines noTable _ =>
    split at member
    · cases member
    · cases member
      exact valid.startTable lines cursor
  next headers rows _ =>
    cases member
    exact valid
  next => cases member

/-- A line starts a block of one kind or another, and none of them breaks the invariant. -/
theorem LevelsValid.startBlock (valid : blocks.LevelsValid) (tables mayBeLazy : Bool)
    (markers : Nat) (cursor : Cursor)
    : (blocks.startBlock tables mayBeLazy markers cursor).LevelsValid := by
  have orElse {first second : Option LineStep} (left : ∀ step ∈ first, step.LevelsValid)
      (right : ∀ step ∈ second, step.LevelsValid)
      : ∀ step ∈ (first <|> second), step.LevelsValid := by
    cases first with
    | none => exact right
    | some step => exact left
  have quote : ∀ step ∈ blocks.startQuote? cursor, step.LevelsValid := by
    intro step member
    obtain ⟨_, _, rfl⟩ := Option.map_eq_some_iff.mp member
    exact valid.openQuote
  have fence : ∀ step ∈ blocks.startFence? cursor, step.LevelsValid := by
    intro step member
    obtain ⟨_, _, rfl⟩ := Option.map_eq_some_iff.mp member
    exact valid.openLeaf _
  have html : ∀ step ∈ blocks.startHtml? cursor, step.LevelsValid := by
    intro step member
    obtain ⟨kind, _, rfl⟩ := Option.map_eq_some_iff.mp member
    exact valid.makeRoom.addHtmlLine kind [] cursor
  have thematicBreak : ∀ step ∈ blocks.startBreak? cursor, step.LevelsValid := by
    intro step member
    simp only [OpenBlocks.startBreak?, Option.mem_def] at member
    split at member
    · cases member
      exact valid.add (Block.levelsValid_of_no_headings rfl)
    · cases member
  have guarded {condition : Prop} [Decidable condition] {starts : Option LineStep}
      (fine : ∀ step ∈ starts, step.LevelsValid)
      : ∀ step ∈ (if condition then starts else none), step.LevelsValid := by
    split
    · exact fine
    · exact fun _ member => nomatch member
  have started {starts : Option LineStep} (fine : ∀ step ∈ starts, step.LevelsValid)
      : (starts.getD (.text blocks)).LevelsValid := by
    cases starts with
    | none => exact valid
    | some step => exact fine step rfl
  -- The starts are tried in turn, and what none of them takes is text.
  refine started ?_
  split
  · exact fun _ member => nomatch member
  · split
    · refine orElse quote (orElse (valid.startHeading? cursor) (orElse fence (orElse html
        (orElse (valid.startUnderline? cursor) (orElse thematicBreak (orElse ?_ ?_))))))
      · exact guarded (valid.startItem? cursor)
      · exact guarded (valid.startRow? cursor)
    · split
      · exact fun _ member => nomatch member
      · intro step member
        cases member
        exact valid.openLeaf _

/-- A line of text keeps the levels valid, since it goes into a leaf. -/
theorem LevelsValid.addText (valid : blocks.LevelsValid) (cursor : Cursor)
    : (blocks.addText cursor).LevelsValid := by
  unfold OpenBlocks.addText
  split
  · exact valid
  · split
    · exact valid
    · exact valid.openLeaf _

/-- The containers that open on one line keep the invariant, by induction along them. -/
theorem LevelsValid.addContent {blocks : OpenBlocks} (valid : blocks.LevelsValid) (tables : Bool)
    (markers : Nat) (cursor : Cursor)
    : (blocks.addContent tables markers cursor).LevelsValid := by
  have step := valid.startBlock tables false markers cursor
  rw [OpenBlocks.addContent]
  split
  next after made => exact (made ▸ step :)
  next after made => exact LevelsValid.addText (made ▸ step :) cursor
  next after behind made =>
    have opened : after.LevelsValid := (made ▸ step :)
    split
    · exact LevelsValid.addContent opened tables (markers + 1) behind
    · exact opened
termination_by cursor.rest.length

/-- A line that goes on with a paragraph by laziness keeps the levels valid. -/
theorem LevelsValid.addLazyLine (valid : blocks.LevelsValid) (cursor : Cursor)
    : (blocks.addLazyLine cursor).LevelsValid := by
  unfold OpenBlocks.addLazyLine
  split <;> exact valid

/-- A line that some of the open frames do not match keeps the levels valid: they are closed before a
block is started, except where the line goes on with a paragraph.
-/
theorem LevelsValid.addUnmatched (valid : blocks.LevelsValid) (tables : Bool) (count : Nat)
    (cursor : Cursor)
    : (blocks.addUnmatched tables count cursor).LevelsValid := by
  have step := (valid.close count).startBlock tables blocks.leaf.isParagraph 0 cursor
  simp only [OpenBlocks.addUnmatched]
  split
  next after made => exact (made ▸ step :)
  next after behind made => exact LevelsValid.addContent (made ▸ step :) tables 1 behind
  next closed made =>
    split
    · exact valid.addLazyLine cursor
    · exact LevelsValid.addText (made ▸ step :) cursor

/-- A line that all open frames match keeps the levels valid, by cases on the open leaf. -/
theorem LevelsValid.addMatched (valid : blocks.LevelsValid) (tables : Bool) (cursor : Cursor)
    : (blocks.addMatched tables cursor).LevelsValid := by
  unfold OpenBlocks.addMatched
  split
  · exact valid.closeLeaf
  · exact valid.closeLeaf.addContent tables 0 cursor
  next inner _ =>
    split
    · exact valid
    · exact valid
    · exact valid.addHtmlLine _ _ inner
    · have step := valid.startBlock tables blocks.leaf.isParagraph 0 inner
      split
      next after made => exact (made ▸ step :)
      next after behind made => exact LevelsValid.addContent (made ▸ step :) tables 1 behind
      next after made => exact LevelsValid.addText (made ▸ step :) inner

/-- Each line keeps the levels valid, whether or not all open frames match it. -/
theorem LevelsValid.addLine (valid : blocks.LevelsValid) (tables : Bool) (line : Line)
    : (OpenBlocks.addLine tables blocks line).LevelsValid := by
  simp only [OpenBlocks.addLine]
  split
  · exact valid.addMatched tables _
  · exact valid.addUnmatched tables _ _

/-- Every heading in the blocks of a document has a level from 1 to 6, by induction on its lines. -/
theorem levelsValid_ofLines (tables : Bool) (lines : List Line)
    : ∀ block ∈ (OpenBlocks.ofLines tables lines).1, block.LevelsValid := by
  have run (blocks : OpenBlocks) (valid : blocks.LevelsValid)
      : (lines.foldl (OpenBlocks.addLine tables) blocks).LevelsValid := by
    induction lines generalizing blocks with
    | nil => exact valid
    | cons line rest ih => exact ih _ (valid.addLine tables line)
  have empty : ({} : OpenBlocks).LevelsValid :=
    ⟨fun _ member => (List.not_mem_nil member).elim,
      fun _ member => (List.not_mem_nil member).elim⟩
  exact (run {} empty).finish

end OpenBlocks

/-- Levels that are valid stay so in passes that keep them. -/
theorem Block.levelsValidAll_of_eq {blocks : List (Block α)} {others : List (Block β)}
    (same : Block.headingLevelsAll others = Block.headingLevelsAll blocks)
    (valid : ∀ block ∈ blocks, block.LevelsValid)
    : ∀ block ∈ others, block.LevelsValid := by
  rw [Block.headingLevelsAll_eq_flatMap, Block.headingLevelsAll_eq_flatMap] at same
  intro other listed level member
  have held := List.mem_flatMap.mpr ⟨other, listed, member⟩
  rw [same] at held
  obtain ⟨block, here, member⟩ := List.mem_flatMap.mp held
  exact valid block here level member

/-- Every heading that the reader finds has a level from 1 to 6. -/
theorem levelsValid_parse (gfm : Bool) (source : String)
    : ∀ block ∈ parse gfm source, block.LevelsValid := by
  have settings {text : String} {blocks : List (Block (List Inline))}
      (valid : ∀ block ∈ blocks, block.LevelsValid)
      : ∀ block ∈ Block.frontMatter text :: blocks, block.LevelsValid :=
    List.forall_mem_cons.mpr ⟨Block.levelsValid_of_no_headings rfl, valid⟩
  have joined (lines : List Line) (f : List Char → List Inline) :=
    Block.levelsValidAll_of_eq (Block.headingLevels_mapAll f _)
      (OpenBlocks.levelsValid_ofLines gfm lines)
  have linked (lines : List Line) (f : List Char → List Inline) :=
    Block.levelsValidAll_of_eq (Block.headingLevels_mapAll Inline.linkMail _)
      (Block.levelsValidAll_of_eq (Block.headingLevels_dropTaskMarkersAll _) (joined lines f))
  simp only [parse]
  split
  · split
    · exact settings (linked _ _)
    · exact settings (joined _ _)
  · split
    · exact linked _ _
    · exact joined _ _

end Markdown

end Docpress
