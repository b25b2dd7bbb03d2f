import Docpress.Markdown.OpenBlocks

/-!
How a line changes the open blocks. The containers that the line continues stay open; then new blocks
start as long as the line holds markers; what is left is text. Text may go on a paragraph whose
containers the line does not continue.
-/

namespace Docpress.Markdown

open Text BlockStart

/-- The cursor behind the mark of a quote, if its line has one. -/
def afterQuoteMark? (cursor : Cursor) : Option Cursor :=
  if cursor.indent < codeIndent ∧ cursor.content.head? = some '>' then
    let cursor := cursor.skipBlanks.skipChars 1
    some (if cursor.startsBlank then cursor.nextColumn else cursor)
  else
    none

/-- The cursor behind what continues a container, if the line continues it. A blank line continues
an item that holds something.
-/
def Frame.continue? (frame : Frame) (holdsMore : Bool) (cursor : Cursor) : Option Cursor :=
  match frame with
  | .quote _ => afterQuoteMark? cursor
  | .list .. => some cursor
  | .item indent done =>
    if indent ≤ cursor.indent then some (cursor.skipColumns indent)
    else if cursor.isBlank && (holdsMore || !done.isEmpty) then some cursor.skipBlanks
    else none

/-- How many of the containers, the outermost one first, a line continues, and the cursor behind
what continues them.
-/
def continueFrames (leafOpen : Bool) (cursor : Cursor) : List Frame → Nat × Cursor
  | [] => (0, cursor)
  | frame :: inner =>
    match frame.continue? (leafOpen || !inner.isEmpty) cursor with
    | some cursor =>
      let (count, cursor) := continueFrames leafOpen cursor inner
      (count + 1, cursor)
    | none => (0, cursor)

/-- What a line is to the open leaf. -/
inductive LeafLine where
  /-- The line goes on with what follows the cursor. -/
  | continues (cursor : Cursor)
  /-- The leaf ends before the line. -/
  | ends
  /-- The leaf ends with the line. -/
  | closes

/-- What a line is to a leaf whose containers it continues. -/
def Leaf.onLine (leaf : Leaf) (cursor : Cursor) : LeafLine :=
  match leaf with
  | .none => .ends
  | .paragraph .. => if cursor.isBlank then .ends else .continues cursor
  | .fenced fence _ _ =>
    if cursor.indent < codeIndent && closesFence fence cursor.content then .closes
    else .continues (cursor.skipBlankColumns fence.indent)
  | .indented _ =>
    if codeIndent ≤ cursor.indent then .continues (cursor.skipColumns codeIndent)
    else if cursor.isBlank then .continues cursor.skipBlanks
    else .ends
  | .html kind _ =>
    if RawHtml.endsAtBlank kind && cursor.isBlank then .ends else .continues cursor
  | .table .. => if (TableRow.cells cursor.content).isEmpty then .ends else .continues cursor

/-- What becomes of a line at a cursor. -/
inductive LineStep where
  /-- A container starts, and the cursor is behind its marker. -/
  | opened (blocks : OpenBlocks) (cursor : Cursor)
  /-- The line is used up. -/
  | finished (blocks : OpenBlocks)
  /-- The rest of the line is text. -/
  | text (blocks : OpenBlocks)

/-- How many markers of one line may start lists. -/
def maxListMarkers : Nat := 99

namespace OpenBlocks

/-- A quote starts. -/
def startQuote? (blocks : OpenBlocks) (cursor : Cursor) : Option LineStep :=
  (afterQuoteMark? cursor).map (.opened blocks.openQuote)

/-- A heading line. -/
def startHeading? (blocks : OpenBlocks) (cursor : Cursor) : Option LineStep :=
  (heading? cursor.content).map fun (level, text) =>
    .finished (blocks.add (.heading level (headingText text)))

/-- A fenced code block starts. -/
def startFence? (blocks : OpenBlocks) (cursor : Cursor) : Option LineStep :=
  (fence? cursor.content).map fun (mark, length, info) =>
    let indent := cursor.rest.length - cursor.content.length
    .finished (blocks.openLeaf (.fenced ⟨mark, length, indent⟩ info []))

/-- Adds a line to a block of markup, which may end with it. -/
def addHtmlLine (kind : RawHtml.BlockKind) (lines : List (List Char)) (cursor : Cursor)
    (blocks : OpenBlocks) : OpenBlocks :=
  let blocks := { blocks with leaf := .html kind (cursor.literal :: lines) }
  if RawHtml.endsBlock kind cursor.content then blocks.closeLeaf else blocks

/-- A block of markup starts. -/
def startHtml? (blocks : OpenBlocks) (cursor : Cursor) : Option LineStep :=
  (RawHtml.blockKind? blocks.leaf.isParagraph cursor.content).map fun kind =>
    .finished (blocks.makeRoom.addHtmlLine kind [] cursor)

/-- The line under the text of a heading. If the paragraph holds nothing but definitions the line is
the text of a new paragraph.
-/
def startUnderline? (blocks : OpenBlocks) (cursor : Cursor) : Option LineStep :=
  match blocks.leaf, underline? cursor.content with
  | .paragraph lines noTable, some level =>
    let (references, content) :=
      Reference.takeDefinitions blocks.references (joinLines lines.reverse)
    let blocks := { blocks with references := references }
    if content.all isAsciiBlank then
      some (.text { blocks with leaf := .paragraph [] noTable })
    else
      some (.finished (OpenBlocks.push (.heading level content) { blocks with leaf := .none }))
  | _, _ => none

/-- A thematic break. -/
def startBreak? (blocks : OpenBlocks) (cursor : Cursor) : Option LineStep :=
  if isThematicBreak cursor.content then some (.finished (blocks.add .thematicBreak)) else none

/-- A list item starts. Its content begins behind the blanks that follow the marker, or one column
behind the marker if code or nothing follows.
-/
def startItem? (blocks : OpenBlocks) (cursor : Cursor) : Option LineStep :=
  (item? blocks.leaf.isParagraph cursor.ended cursor.content).map fun marker =>
    let behind := cursor.skipBlanks.skipChars marker.width
    let blanks := behind.indent
    if 1 ≤ blanks ∧ blanks ≤ 4 ∧ !behind.isBlank then
      .opened (blocks.openItem marker (cursor.indent + marker.width + blanks))
        (behind.skipColumns blanks)
    else
      .opened (blocks.openItem marker (cursor.indent + marker.width + 1))
        (if 0 < blanks then behind.nextColumn else behind)

/-- The lines before the last line of a paragraph as a paragraph of their own, if there are any. -/
def addLinesBeforeTable (lines : List (List Char)) (blocks : OpenBlocks) : OpenBlocks :=
  if lines.isEmpty then blocks
  else
    blocks.push
      (.paragraph (trimBy isAsciiBlank (TableRow.unescapeBars (joinLines lines.reverse))))

/-- A row of dashes under the last line of a paragraph starts a table if both have as many cells. -/
def startTable (lines : List (List Char)) (cursor : Cursor) (blocks : OpenBlocks) : LineStep :=
  match lines with
  | [] => .text blocks
  | headerLine :: before =>
    if TableRow.isDelimiterRow cursor.content then
      let headers := TableRow.cells headerLine
      if headers.length = (TableRow.cells cursor.content).length then
        let blocks := OpenBlocks.addLinesBeforeTable before { blocks with leaf := .none }
        .finished { blocks with leaf := .table headers [] }
      else
        .text { blocks with leaf := .paragraph lines true }
    else
      .text blocks

/-- A table starts, or a row of one. -/
def startRow? (blocks : OpenBlocks) (cursor : Cursor) : Option LineStep :=
  match blocks.leaf with
  | .paragraph lines noTable => if noTable then none else some (startTable lines cursor blocks)
  | .table headers rows =>
    let row := TableRow.fit headers.length (TableRow.cells cursor.content)
    some (.finished { blocks with leaf := .table headers (row :: rows) })
  | _ => none

/-- What becomes of a line at a cursor. Indented content is code, unless it may go on a paragraph
further out.
-/
def startBlock (tables mayBeLazy : Bool) (markers : Nat) (blocks : OpenBlocks) (cursor : Cursor)
    : LineStep :=
  let step :=
    if cursor.isBlank then none
    else if cursor.indent < codeIndent then
      blocks.startQuote? cursor <|> blocks.startHeading? cursor <|> blocks.startFence? cursor
        <|> blocks.startHtml? cursor <|> blocks.startUnderline? cursor
        <|> blocks.startBreak? cursor
        <|> (if markers < maxListMarkers then blocks.startItem? cursor else none)
        <|> (if tables then blocks.startRow? cursor else none)
    else if mayBeLazy then none
    else some (.finished (blocks.openLeaf (.indented [(cursor.skipColumns codeIndent).text])))
  step.getD (.text blocks)

/-- Adds the text at the cursor to the paragraph, or starts a paragraph with it. -/
def addText (blocks : OpenBlocks) (cursor : Cursor) : OpenBlocks :=
  if cursor.isBlank then blocks
  else
    match blocks.leaf with
    | .paragraph lines noTable => { blocks with leaf := .paragraph (cursor.content :: lines) noTable }
    | _ => blocks.openLeaf (.paragraph [cursor.content] false)

/-- Starts blocks at the cursor as long as containers open, and adds what is left as text. -/
def addContent (tables : Bool) (markers : Nat) (blocks : OpenBlocks) (cursor : Cursor)
    : OpenBlocks :=
  match blocks.startBlock tables false markers cursor with
  | .finished blocks => blocks
  | .text blocks => blocks.addText cursor
  | .opened blocks behind =>
    if behind.rest.length < cursor.rest.length then
      addContent tables (markers + 1) blocks behind
    else
      blocks
termination_by cursor.rest.length

/-- Adds a line of text to the paragraph, with the blanks before it. -/
def addLazyLine (blocks : OpenBlocks) (cursor : Cursor) : OpenBlocks :=
  match blocks.leaf with
  | .paragraph lines noTable => { blocks with leaf := .paragraph (cursor.text :: lines) noTable }
  | _ => blocks

/-- Adds the line at a cursor that continues all but `count` containers of `blocks`. -/
def addUnmatched (tables : Bool) (count : Nat) (blocks : OpenBlocks) (cursor : Cursor)
    : OpenBlocks :=
  let lazy := blocks.leaf.isParagraph
  let closed := blocks.close count
  match closed.startBlock tables lazy 0 cursor with
  | .finished blocks => blocks
  | .opened blocks behind => blocks.addContent tables 1 behind
  | .text closed =>
    if lazy && !cursor.isBlank then blocks.addLazyLine cursor else closed.addText cursor

/-- Adds the line at a cursor that continues all containers. -/
def addMatched (tables : Bool) (blocks : OpenBlocks) (cursor : Cursor) : OpenBlocks :=
  match blocks.leaf.onLine cursor with
  | .closes => blocks.closeLeaf
  | .ends => blocks.closeLeaf.addContent tables 0 cursor
  | .continues cursor =>
    match blocks.leaf with
    | .fenced fence info lines =>
      { blocks with leaf := .fenced fence info (cursor.literal :: lines) }
    | .indented lines => { blocks with leaf := .indented (cursor.text :: lines) }
    | .html kind lines => blocks.addHtmlLine kind lines cursor
    | _ =>
      match blocks.startBlock tables blocks.leaf.isParagraph 0 cursor with
      | .finished blocks => blocks
      | .opened blocks behind => blocks.addContent tables 1 behind
      | .text blocks => blocks.addText cursor

/-- Adds a line. -/
def addLine (tables : Bool) (blocks : OpenBlocks) (line : Line) : OpenBlocks :=
  let (count, cursor) :=
    continueFrames blocks.leaf.isSome { rest := line.text, ended := line.ended }
      blocks.frames.reverse
  let unmatched := blocks.frames.length - count
  if unmatched = 0 then blocks.addMatched tables cursor
  else blocks.addUnmatched tables unmatched cursor

/-- The blocks of a document with the given lines, and its link references. -/
def ofLines (tables : Bool) (lines : List Line) : List (Block (List Char)) × References :=
  (lines.foldl (addLine tables) {}).finish

end OpenBlocks

end Docpress.Markdown
