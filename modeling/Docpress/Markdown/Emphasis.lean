import Docpress.Markdown.Block

/-!
Emphasis: runs of marks among the pieces of running text, and how runs that open and runs that close
are paired.
-/

namespace Docpress.Markdown

/-- A run of equal marks. -/
structure MarkRun where
  mark : Char
  /-- How many marks were written. -/
  length : Nat
  /-- How many marks are not used up. -/
  left : Nat
  /-- How much text stands before the run. -/
  position : Nat
  opens : Bool
  closes : Bool
  deriving Repr, DecidableEq

/-- A piece of running text while its emphasis is not known yet. -/
inductive Piece where
  | inline (content : Inline)
  | run (marks : MarkRun)
  deriving Repr, Inhabited

namespace Piece

/-- The piece as it stands if its marks mean nothing. -/
def settle : Piece → Inline
  | .inline content => content
  | .run marks => .text (String.ofList (List.replicate marks.left marks.mark))

/-- How much work a piece is: its marks count on their own. -/
def weight : Piece → Nat
  | .inline _ => 1
  | .run marks => marks.left + 1

end Piece

namespace Emphasis

/-- Runs of one class fail to find an opener at the same places. -/
def searchClass (closer : MarkRun) : Nat :=
  if closer.mark == '*' then 2 + (if closer.opens then 3 else 0) + closer.length % 3
  else if closer.mark == '~' then 1
  else 0

/-- Whether the lengths of two runs keep them apart: if one of them both opens and closes, they must
not add up to a multiple of three unless both are multiples of three.
-/
def lengthsClash (opener closer : MarkRun) : Bool :=
  (closer.opens || opener.closes) && (opener.length + closer.length) % 3 == 0
    && !(opener.length % 3 == 0 && closer.length % 3 == 0)

/-- The last run that can open for a closer, from the pieces before it, the last one first. The search
ends before the position `bottom`. The result holds the pieces between the two, the opener, and the
pieces before it.
-/
def findOpener? (closer : MarkRun) (bottom : Nat) (between : List Piece)
    : List Piece → Option (List Piece × MarkRun × List Piece)
  | [] => none
  | .inline content :: before => findOpener? closer bottom (.inline content :: between) before
  | .run run :: before =>
    if run.position < bottom then none
    else if run.opens && run.mark == closer.mark && !lengthsClash run closer then
      some (between, run, before)
    else
      findOpener? closer bottom (.run run :: between) before

/-- The emphasis that `used` marks make. -/
def wrap (mark : Char) (used : Nat) (children : List Inline) : Inline :=
  if mark == '~' then .strikethrough children
  else if used = 1 then .emphasis children
  else .strong children

/-- How many marks a pair uses up: two if both have them. -/
def usedMarks (opener closer : MarkRun) : Nat :=
  if 2 ≤ opener.left ∧ 2 ≤ closer.left then 2 else 1

/-- Whether a pair may be joined. Tildes must be used up at once. -/
def canJoin (opener closer : MarkRun) : Bool :=
  let used := usedMarks opener closer
  opener.mark != '~' || (opener.left == used && closer.left == used)

/-- The run without some of its marks, if any are left then. -/
def leftover (run : MarkRun) (used : Nat) : List Piece :=
  if used < run.left then [.run { run with left := run.left - used }] else []

/-- The weight of pieces that are not resolved yet. -/
def totalWeight : List Piece → Nat
  | [] => 0
  | piece :: rest => piece.weight + totalWeight rest

/-- What is left of a closer weighs less than the closer. -/
theorem totalWeight_leftover (run : MarkRun) {used : Nat} (h : 0 < used) (rest : List Piece)
    : totalWeight (leftover run used ++ rest) < totalWeight (.run run :: rest) := by
  unfold leftover
  split <;> simp only [totalWeight, Piece.weight, List.nil_append, List.cons_append] <;> omega

/-- A pair uses up some marks. -/
theorem usedMarks_pos (opener closer : MarkRun) : 0 < usedMarks opener closer := by
  unfold usedMarks
  split <;> omega

/-- Pairs the runs of the pieces to come, given the pieces before them, the last one first. The
`bottoms` say for each class of closers where a search for an opener may stop. Tildes that cannot be
joined end the pairing of everything.
-/
def resolveFrom (bottoms : List (Nat × Nat)) (before : List Piece) (pieces : List Piece)
    : List Inline :=
  match pieces with
  | [] => before.reverse.map Piece.settle
  | .inline content :: rest => resolveFrom bottoms (.inline content :: before) rest
  | .run closer :: rest =>
    if closer.closes then
      let bottom := (bottoms.lookup (searchClass closer)).getD 0
      match findOpener? closer bottom [] before with
      | none =>
        resolveFrom ((searchClass closer, closer.position) :: bottoms) (.run closer :: before) rest
      | some (between, opener, outer) =>
        if canJoin opener closer then
          let used := usedMarks opener closer
          let emphasis := wrap opener.mark used (between.map Piece.settle)
          resolveFrom bottoms (.inline emphasis :: (leftover opener used ++ outer))
            (leftover closer used ++ rest)
        else
          (before.reverse ++ .run closer :: rest).map Piece.settle
    else
      resolveFrom bottoms (.run closer :: before) rest
termination_by totalWeight pieces
decreasing_by
  · simp [totalWeight, Piece.weight]
  · simp [totalWeight, Piece.weight]
  · exact totalWeight_leftover closer (usedMarks_pos opener closer) rest
  · simp [totalWeight, Piece.weight]

/-- The running text of pieces, with their runs paired. -/
def resolve (pieces : List Piece) : List Inline :=
  resolveFrom [] [] pieces

end Emphasis

end Docpress.Markdown
