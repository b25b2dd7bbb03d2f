import Docpress.Markdown.BareLink
import Docpress.Markdown.Emphasis
import Docpress.Markdown.RawHtml
import Docpress.Markdown.Reference

/-!
The reading of running text from left to right. What stands between brackets becomes a link when the
closing bracket is reached and a target follows it; else the brackets are text.
-/

namespace Docpress.Markdown

open Text

/-- An opening bracket that is not closed yet. -/
structure Opener where
  image : Bool
  /-- The text behind the bracket. -/
  source : List Char
  /-- Whether another bracket has been opened behind it. -/
  bracketAfter : Bool := false
  /-- The pieces before the bracket, the last one first. -/
  pieces : List Piece

/-- The bracket as text. -/
def Opener.text (opener : Opener) : Inline :=
  .text (if opener.image then "![" else "[")

/-- The state of reading running text. -/
structure InlineScan where
  /-- What has been read, reversed. -/
  before : List Char := []
  rest : List Char
  /-- The plain text that is not a piece yet, reversed. -/
  plain : List Char := []
  /-- The pieces behind the innermost opening bracket, the last one first. -/
  pieces : List Piece := []
  /-- The opening brackets, the innermost one first. -/
  openers : List Opener := []
  /-- Whether a link has been made since the last opening bracket, so that no bracket around it can
  make another one.
  -/
  linkMade : Bool := false
  /-- Whether the last bracket was an opening one. -/
  inBrackets : Bool := false

namespace InlineScan

/-- Reads up to `rest`, which is an end of the text that is left. -/
def readTo (rest : List Char) (scan : InlineScan) : InlineScan :=
  let read := scan.rest.take (scan.rest.length - rest.length)
  { scan with before := read.reverse ++ scan.before, rest := rest }

/-- Adds plain text. -/
def addPlain (text : List Char) (scan : InlineScan) : InlineScan :=
  { scan with plain := text.reverse ++ scan.plain }

/-- Makes the plain text a piece. -/
def flush (scan : InlineScan) : InlineScan :=
  if scan.plain.isEmpty then scan
  else
    { scan with
      plain := []
      pieces := .inline (.text (String.ofList scan.plain.reverse)) :: scan.pieces }

/-- Adds a piece. -/
def addPiece (piece : Piece) (scan : InlineScan) : InlineScan :=
  let scan := scan.flush
  { scan with pieces := piece :: scan.pieces }

/-- Adds finished running text. -/
def add (content : Inline) (scan : InlineScan) : InlineScan :=
  scan.addPiece (.inline content)

/-- Takes the next characters as plain text. -/
def takePlain (count : Nat) (scan : InlineScan) : InlineScan :=
  (scan.addPlain (scan.rest.take count)).readTo (scan.rest.drop count)

/-- A line ends with the given break; `rest` is the next line. -/
def endLine (ending : Inline) (rest : List Char) (scan : InlineScan) : InlineScan :=
  (scan.add ending).readTo (Reference.skipBlanks rest)

/-- A line ends, with a break if two blanks stand before the end. -/
def newline (rest : List Char) (scan : InlineScan) : InlineScan :=
  match scan.before with
  | ' ' :: ' ' :: _ => scan.endLine .lineBreak rest
  | _ => scan.endLine .softBreak rest

/-- A backslash, with the text behind it. -/
def backslash (rest : List Char) (scan : InlineScan) : InlineScan :=
  match rest with
  | '\n' :: rest => scan.endLine .lineBreak rest
  | c :: rest =>
    if isAsciiPunctuation c then (scan.addPlain [c]).readTo rest else scan.takePlain 1
  | [] => scan.takePlain 1

/-- An ampersand, with the text behind it. -/
def ampersand (rest : List Char) (scan : InlineScan) : InlineScan :=
  match Entity.read? rest with
  | some (value, rest) => (scan.addPlain value).readTo rest
  | none => scan.takePlain 1

/-- The longest run of grave accents that can enclose code. -/
def maxTicks : Nat := 80

/-- The text before and the text behind the next run of exactly `count` grave accents. `run` accents
stand right before the text, and have been put on `code`, which is reversed.
-/
def closeTicks? (count : Nat) (run : Nat) (code : List Char) : List Char
    → Option (List Char × List Char)
  | [] => if run = count then some ((code.drop count).reverse, []) else none
  | c :: rest =>
    if c == '\x60' then closeTicks? count (run + 1) (c :: code) rest
    else if run = count then some ((code.drop count).reverse, c :: rest)
    else closeTicks? count 0 (c :: code) rest

/-- A run of grave accents. -/
def ticks (scan : InlineScan) : InlineScan :=
  let count := (scan.rest.takeWhile (· == '\x60')).length
  let inside := scan.rest.drop count
  let closed := if maxTicks < count then none else closeTicks? count 0 [] inside
  match closed with
  | some (code, rest) => (scan.add (.code (String.ofList (codeSpanText code)))).readTo rest
  | none => scan.takePlain count

/-- A link to an address between angle brackets. -/
def angleLink (target text : List Char) (scan : InlineScan) : InlineScan :=
  scan.add (.link (String.ofList target) "" [.text (String.ofList text)])

/-- An opening angle bracket, with the text behind it. -/
def angle (rest : List Char) (scan : InlineScan) : InlineScan :=
  match BareLink.angleAddress? rest with
  | some (address, rest) =>
    (scan.angleLink (bareTargetText address) (Entity.unescape address)).readTo rest
  | none =>
    match BareLink.angleMail? rest with
    | some (address, rest) =>
      (scan.angleLink ("mailto:".toList ++ bareTargetText address)
        (Entity.unescape address)).readTo rest
    | none =>
      match RawHtml.inline? rest with
      | some behind =>
        let markup := scan.rest.take (scan.rest.length - behind.length)
        (scan.add (.html (String.ofList markup))).readTo behind
      | none => scan.takePlain 1

/-- A bare link whose text has its first `already` characters in the plain text. -/
def bareLink (target text : List Char) (already : Nat) (scan : InlineScan) : InlineScan :=
  let scan := { scan with plain := scan.plain.drop already }
  (scan.add (.link (String.ofList target) "" [.text (String.ofList text)])).readTo
    (scan.rest.drop (text.length - already))

/-- A letter w, which may start a bare link. -/
def letterW (scan : InlineScan) : InlineScan :=
  match BareLink.www? scan.before scan.rest with
  | some text =>
    if scan.inBrackets then scan.takePlain 1
    else scan.bareLink ("http://".toList ++ text) text 0
  | none => scan.takePlain 1

/-- A colon, which may stand behind the scheme of a bare link. -/
def colon (scan : InlineScan) : InlineScan :=
  match BareLink.schemed? scan.before scan.rest with
  | some (scheme, text) =>
    if scan.inBrackets then scan.takePlain 1
    else scan.bareLink (scheme ++ text) (scheme ++ text) scheme.length
  | none => scan.takePlain 1

/-- The character next to a run of marks. If tildes are marks, they are passed over. The start and
the end of the text count as line ends.
-/
def neighbour (gfm : Bool) (text : List Char) : Char :=
  (if gfm then text.dropWhile (· == '~') else text).head?.getD '\n'

/-- A run of marks between the given neighbours. Underscores within words neither open nor close. -/
def markRun (mark : Char) (length position : Nat) (previous next : Char) : MarkRun :=
  let loose (c : Char) : Bool := isWhiteSpace c || BareLink.isPunctuation c
  let leftFlanking :=
    !isWhiteSpace next && (!BareLink.isPunctuation next || loose previous)
  let rightFlanking :=
    !isWhiteSpace previous && (!BareLink.isPunctuation previous || loose next)
  let word := mark == '_'
  { mark := mark
    length := length
    left := length
    position := position
    opens := leftFlanking && (!word || !rightFlanking || BareLink.isPunctuation previous)
    closes := rightFlanking && (!word || !leftFlanking || BareLink.isPunctuation next) }

/-- A run of marks. -/
def marks (gfm : Bool) (mark : Char) (scan : InlineScan) : InlineScan :=
  let length := (scan.rest.takeWhile (· == mark)).length
  let behind := scan.rest.drop length
  let run := markRun mark length scan.before.length (neighbour gfm scan.before)
    (neighbour gfm behind)
  if run.opens || run.closes then (scan.addPiece (.run run)).readTo behind
  else scan.takePlain length

/-- An opening bracket, of a link or an image, with the text behind it. -/
def openBracket (image : Bool) (source : List Char) (scan : InlineScan) : InlineScan :=
  let scan := scan.flush
  let openers := match scan.openers with
    | opener :: outer => { opener with bracketAfter := true } :: outer
    | [] => []
  InlineScan.readTo source
    { scan with
      pieces := []
      openers := { image := image, source := source, pieces := scan.pieces } :: openers
      linkMade := scan.linkMade && image
      inBrackets := true }

/-- Makes the innermost opening bracket text. -/
def dropOpener (scan : InlineScan) : InlineScan :=
  match scan.openers with
  | opener :: outer =>
    { scan with
      pieces := scan.pieces ++ .inline opener.text :: opener.pieces
      openers := outer }
  | [] => scan

/-- Makes a link or an image of what stands behind the innermost opening bracket. -/
def closeLink (opener : Opener) (outer : List Opener) (target title : List Char)
    (scan : InlineScan) : InlineScan :=
  let children := Emphasis.resolve scan.flush.pieces.reverse
  let target := String.ofList target
  let title := String.ofList title
  let content := if opener.image then .image target title children else .link target title children
  { scan with
    plain := []
    pieces := .inline content :: opener.pieces
    openers := outer
    linkMade := scan.linkMade || !opener.image }

/-- The target and the title in parentheses behind a closing bracket, and the text behind them. -/
def linkTail? : List Char → Option (List Char × List Char × List Char)
  | '(' :: rest => do
    let (target, rest) ← LinkParts.target? (rest.dropWhile isAsciiBlank)
    let titleStart := rest.dropWhile isAsciiBlank
    let (title, rest) :=
      if titleStart.length < rest.length then LinkParts.title titleStart else ([], titleStart)
    match rest.dropWhile isAsciiBlank with
    | ')' :: rest => return (targetText target, titleText title, rest)
    | _ => none
  | _ => none

/-- The reference that the text between brackets or the label behind them stands for, and the text
behind it.
-/
def linkReference? (references : References) (opener : Opener) (between behind : List Char)
    : Option (Reference × List Char) :=
  let shortcut (rest : List Char) : Option (Reference × List Char) :=
    if opener.bracketAfter then none
    else (Reference.find? references between).map (·, rest)
  match LinkParts.label? behind with
  | some ([], rest) => shortcut rest
  | some (label, rest) => (Reference.find? references label).map (·, rest)
  | none => shortcut behind

/-- A closing bracket, with the text behind it. -/
def closeBracket (references : References) (behind : List Char) (scan : InlineScan)
    : InlineScan :=
  let scan := { scan with inBrackets := false }
  match scan.openers with
  | [] => scan.takePlain 1
  | opener :: outer =>
    let fail := scan.flush.dropOpener.takePlain 1
    if !opener.image && scan.linkMade then fail
    else
      match linkTail? behind with
      | some (target, title, rest) => (scan.closeLink opener outer target title).readTo rest
      | none =>
        let between := opener.source.take (opener.source.length - scan.rest.length)
        match linkReference? references opener between behind with
        | some (reference, rest) =>
          (scan.closeLink opener outer reference.target reference.title).readTo rest
        | none => fail

/-- Whether the character may mean more than itself. -/
def isSpecial (gfm : Bool) (c : Char) : Bool :=
  "\n\x60\\&<[]!*_".toList.contains c || (gfm && ":w~".toList.contains c)

/-- A run of characters that mean themselves. Blanks at the end of a line are dropped. -/
def plainRun (gfm : Bool) (scan : InlineScan) : InlineScan :=
  let run := scan.rest.takeWhile (!isSpecial gfm ·)
  let rest := scan.rest.drop run.length
  let text := if rest.head? = some '\n' then trimEndBy isAsciiBlank run else run
  (scan.addPlain text).readTo rest

/-- Reads what stands at the next character. -/
def step (gfm : Bool) (references : References) (scan : InlineScan) : InlineScan :=
  match scan.rest with
  | [] => scan
  | '\n' :: rest => scan.newline rest
  | '\\' :: rest => scan.backslash rest
  | '&' :: rest => scan.ampersand rest
  | '\x60' :: _ => scan.ticks
  | '<' :: rest => scan.angle rest
  | '[' :: rest => scan.openBracket false rest
  | '!' :: '[' :: rest =>
    if rest.head? = some '^' then scan.takePlain 1 else scan.openBracket true rest
  | ']' :: rest => scan.closeBracket references rest
  | '*' :: _ => scan.marks gfm '*'
  | '_' :: _ => scan.marks gfm '_'
  | c :: _ =>
    if gfm && c == '~' then scan.marks gfm '~'
    else if gfm && c == ':' then scan.colon
    else if gfm && c == 'w' then scan.letterW
    else if isSpecial gfm c then scan.takePlain 1
    else scan.plainRun gfm

/-- Reads to the end. Every step reads at least one character. -/
def run (gfm : Bool) (references : References) (scan : InlineScan) : InlineScan :=
  let next := scan.step gfm references
  if next.rest.length < scan.rest.length then run gfm references next else scan
termination_by scan.rest.length

/-- Makes all opening brackets text. -/
def dropOpeners (scan : InlineScan) : InlineScan :=
  scan.openers.foldl (fun scan _ => scan.dropOpener) scan

/-- The pieces of a text. -/
def piecesOf (gfm : Bool) (references : References) (text : List Char) : List Piece :=
  let scan := run gfm references { rest := trimEndBy isAsciiBlank text }
  scan.flush.dropOpeners.pieces.reverse

end InlineScan

/-- Running text as written, parsed. Neighbouring texts are still apart. -/
def Inline.ofText (gfm : Bool) (references : References) (text : List Char) : List Inline :=
  Emphasis.resolve (InlineScan.piecesOf gfm references text)

end Docpress.Markdown
