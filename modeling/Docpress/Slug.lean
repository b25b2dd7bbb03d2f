import Docpress.Text.Lowercase

/-!
Anchor identifiers for headings. A slug is made from the heading's text alone; a tracker then tells
repeated slugs of one document apart, if the policy asks for it.
-/

namespace Docpress

namespace Slug

open Text

/-- The characters a slug is made of. -/
def isSlugChar (c : Char) : Bool :=
  ('a' ≤ c && c ≤ 'z') || ('0' ≤ c && c ≤ '9') || c == '_' || c == '-'

/-- Writes every ampersand as the word `and` between hyphens. -/
def spellAmpersands (text : List Char) : List Char :=
  text.flatMap fun c => if c == '&' then ['-', 'a', 'n', 'd', '-'] else [c]

/-- Shortens every run of hyphens to one. `inRun` holds right after a hyphen. -/
def collapseHyphens : (inRun : Bool) → List Char → List Char
  | _, [] => []
  | inRun, c :: rest =>
    if c == '-' then
      if inRun then collapseHyphens true rest else '-' :: collapseHyphens true rest
    else
      c :: collapseHyphens false rest

/-- The slug of a text, character by character. -/
def chars (text : List Char) : List Char :=
  let hyphenated := squeezeBlanks '-' false (trim (lowercase text))
  collapseHyphens false ((spellAmpersands hyphenated).filter isSlugChar)

end Slug

/-- The anchor identifier of a heading text: lower-cased and trimmed, with blanks and `&` spelled by
hyphens and everything outside letters, digits, `_` and `-` dropped.
-/
def slugify (text : String) : String :=
  String.ofList (Slug.chars text.toList)

/-- How headings with one slug are identified. -/
inductive HeadingIds where
  /-- Every heading has its slug, and repeated headings share it. -/
  | verbatim
  /-- A repeated slug gets a number: `intro`, `intro-1`, `intro-2`. -/
  | suffixed
  deriving Repr, DecidableEq, Inhabited

/-- The identifiers that one document has used so far, each with the number to try next for it. -/
structure SlugTracker where
  policy : HeadingIds
  seen : List (String × Nat) := []
  deriving Repr, DecidableEq

namespace SlugTracker

/-- Whether the identifier is in use. -/
def uses (tracker : SlugTracker) (id : String) : Bool :=
  tracker.seen.any (·.1 == id)

/-- Records that `next` is the number to try next for `id`. -/
def record (tracker : SlugTracker) (id : String) (next : Nat) : SlugTracker :=
  if tracker.uses id then
    { tracker with seen := tracker.seen.map fun entry => if entry.1 == id then (id, next) else entry }
  else
    { tracker with seen := tracker.seen ++ [(id, next)] }

/-- A slug with a number. -/
def candidate (base : String) (number : Nat) : String :=
  base ++ "-" ++ toString number

/-- The first number from `start` on whose candidate is free. One of the first `seen.length + 1`
is, since distinct numbers give distinct candidates.
-/
def firstFree (tracker : SlugTracker) (base : String) (start : Nat) : Nat :=
  ((List.range' start (tracker.seen.length + 1)).find? fun number =>
    !tracker.uses (candidate base number)).getD start

/-- The identifier of the next heading, and the tracker after it. -/
def assign (tracker : SlugTracker) (text : String) : String × SlugTracker :=
  let base := slugify text
  match tracker.policy with
  | .verbatim => (base, tracker)
  | .suffixed =>
    match tracker.seen.lookup base with
    | none => (base, tracker.record base 1)
    | some next =>
      let number := tracker.firstFree base next
      let id := candidate base number
      (id, (tracker.record base (number + 1)).record id 1)

/-- The identifiers of a sequence of headings. -/
def assignAll (tracker : SlugTracker) : List String → List String
  | [] => []
  | text :: rest =>
    let (id, tracker) := tracker.assign text
    id :: tracker.assignAll rest

end SlugTracker

end Docpress
