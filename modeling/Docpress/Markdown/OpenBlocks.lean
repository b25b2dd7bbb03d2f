import Docpress.Markdown.Block
import Docpress.Markdown.BlockStart
import Docpress.Markdown.RawHtml
import Docpress.Markdown.Reference
import Docpress.Markdown.TableRow

/-!
The blocks that are still open while a document is read line by line: containers inside each other,
and at most one block of text inside the innermost one. Closing a block gives it its final form.
-/

namespace Docpress.Markdown

open Text

/-- An open container with the blocks that are finished in it, the last one first. -/
inductive Frame where
  | quote (done : List (Block (List Char)))
  | list (kind : BlockStart.ListKind) (start : Nat) (items : List (List (Block (List Char))))
  /-- A list item, and how far its content is indented. -/
  | item (indent : Nat) (done : List (Block (List Char)))
  deriving Repr

/-- The open block of text, with its lines so far, the last one first. Lines of fenced code and of
markup are kept with their ends.
-/
inductive Leaf where
  | none
  /-- A paragraph. No table starts in one in which a row of dashes has failed to start one. -/
  | paragraph (lines : List (List Char)) (noTable : Bool)
  | fenced (fence : BlockStart.Fence) (info : List Char) (lines : List (List Char))
  | indented (lines : List (List Char))
  | html (kind : RawHtml.BlockKind) (lines : List (List Char))
  | table (headers : List (List Char)) (rows : List (List (List Char)))
  deriving Repr

/-- Whether the leaf is a paragraph. -/
def Leaf.isParagraph : Leaf → Bool
  | .paragraph .. => true
  | _ => false

/-- Whether there is a leaf. -/
def Leaf.isSome : Leaf → Bool
  | .none => false
  | _ => true

/-- The state of reading a document. -/
structure OpenBlocks where
  /-- The finished blocks outside all open containers, the last one first. -/
  done : List (Block (List Char)) := []
  /-- The open containers, the innermost one first. -/
  frames : List Frame := []
  leaf : Leaf := .none
  references : References := []
  deriving Repr

namespace OpenBlocks

/-- Puts a finished block into the innermost container. -/
def push (block : Block (List Char)) (blocks : OpenBlocks) : OpenBlocks :=
  match blocks.frames with
  | [] => { blocks with done := block :: blocks.done }
  | .quote done :: outer => { blocks with frames := .quote (block :: done) :: outer }
  | .item indent done :: outer => { blocks with frames := .item indent (block :: done) :: outer }
  | .list kind start items :: outer =>
    { blocks with frames := .list kind start ([block] :: items) :: outer }

/-- The lines of indented code without blank lines at its end. -/
def dropBlankLines (lines : List (List Char)) : List (List Char) :=
  lines.dropWhile (·.all isSpaceOrTab)

/-- The block of a leaf, and the references after it. A paragraph first gives up the definitions at
its start, and may have nothing left then.
-/
def finishLeaf (references : References) : Leaf → References × Option (Block (List Char))
  | .none => (references, none)
  | .paragraph lines _ =>
    let (references, content) := Reference.takeDefinitions references (joinLines lines.reverse)
    (references, if content.all isAsciiBlank then none else some (.paragraph content))
  | .fenced _ info lines =>
    (references,
      some (.code (String.ofList (infoText info)) (String.ofList lines.reverse.flatten)))
  | .indented lines =>
    (references, some (.code "" (String.ofList (joinLines (dropBlankLines lines).reverse))))
  | .html _ lines => (references, some (.html (String.ofList lines.reverse.flatten)))
  | .table headers rows => (references, some (.table headers rows.reverse))

/-- Closes the leaf. -/
def closeLeaf (blocks : OpenBlocks) : OpenBlocks :=
  let (references, block) := finishLeaf blocks.references blocks.leaf
  let blocks := { blocks with leaf := .none, references := references }
  match block with
  | some block => blocks.push block
  | none => blocks

/-- The number of a list's first item, if it is ordered. -/
def listStart (kind : BlockStart.ListKind) (start : Nat) : Option Nat :=
  match kind with
  | .bullet _ => none
  | .ordered _ => some start

/-- Puts a finished item into the list around it. -/
def pushItem (item : List (Block (List Char))) (blocks : OpenBlocks) : OpenBlocks :=
  match blocks.frames with
  | .list kind start items :: outer =>
    { blocks with frames := .list kind start (item :: items) :: outer }
  | _ => blocks.push (.list none [item])

/-- Closes the innermost container, in which no leaf may be open. -/
def closeFrame (blocks : OpenBlocks) : OpenBlocks :=
  match blocks.frames with
  | [] => blocks
  | frame :: outer =>
    let blocks := { blocks with frames := outer }
    match frame with
    | .quote done => blocks.push (.quote done.reverse)
    | .list kind start items => blocks.push (.list (listStart kind start) items.reverse)
    | .item _ done => blocks.pushItem done.reverse

/-- Closes the `count` innermost containers. -/
def closeFrames : (count : Nat) → OpenBlocks → OpenBlocks
  | 0, blocks => blocks
  | count + 1, blocks => closeFrames count blocks.closeFrame

/-- Closes the leaf and the `count` innermost containers. -/
def close (count : Nat) (blocks : OpenBlocks) : OpenBlocks :=
  blocks.closeLeaf.closeFrames count

/-- Makes room for a new block: the leaf is closed, and so is a list, since only items stand in it.
-/
def makeRoom (blocks : OpenBlocks) : OpenBlocks :=
  let blocks := blocks.closeLeaf
  match blocks.frames with
  | .list .. :: _ => blocks.closeFrame
  | _ => blocks

/-- Adds a finished block. -/
def add (block : Block (List Char)) (blocks : OpenBlocks) : OpenBlocks :=
  blocks.makeRoom.push block

/-- Opens a leaf. -/
def openLeaf (leaf : Leaf) (blocks : OpenBlocks) : OpenBlocks :=
  { blocks.makeRoom with leaf := leaf }

/-- Opens a quote. -/
def openQuote (blocks : OpenBlocks) : OpenBlocks :=
  let blocks := blocks.makeRoom
  { blocks with frames := .quote [] :: blocks.frames }

/-- Opens an item, in the list that is innermost if that is of the same kind and in a new one
otherwise.
-/
def openItem (marker : BlockStart.ItemMarker) (indent : Nat) (blocks : OpenBlocks) : OpenBlocks :=
  let blocks := blocks.closeLeaf
  match blocks.frames with
  | .list kind start items :: outer =>
    if kind = marker.kind then
      { blocks with frames := .item indent [] :: .list kind start items :: outer }
    else
      let blocks := blocks.closeFrame
      { blocks with frames := .item indent [] :: .list marker.kind marker.start [] :: blocks.frames }
  | frames =>
    { blocks with frames := .item indent [] :: .list marker.kind marker.start [] :: frames }

/-- Closes everything. The blocks of the document stand in order then. -/
def finish (blocks : OpenBlocks) : List (Block (List Char)) × References :=
  let blocks := blocks.close blocks.frames.length
  (blocks.done.reverse, blocks.references)

end OpenBlocks

end Docpress.Markdown
