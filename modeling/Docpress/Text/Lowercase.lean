import Docpress.Text.WhiteSpace
import Docpress.Text.CaseTable

/-!
Unicode lower-casing and case folding. Every character is mapped on its own, except that a capital
sigma that ends a word becomes the final form.
-/

namespace Docpress.Text

/-- Whether the character belongs to a letter pair and is not skipped by `isCaseIgnorable`. -/
def isCased (c : Char) : Bool :=
  inRanges casedRanges c

/-- Whether the character is passed over when the letters around another one are looked at. -/
def isCaseIgnorable (c : Char) : Bool :=
  inRanges caseIgnorableRanges c

/-- The lower-case form of a character without regard to its surroundings. Only the capital I with
a dot above has two characters.
-/
def lowerChar (c : Char) : List Char :=
  if c.toNat < 0x80 then
    [asciiLower c]
  else if c == '\u0130' then
    ['i', '\u0307']
  else
    match lowercaseRuns.findSome? (·.partner? c.toNat) with
    | some code => [Char.ofNat code]
    | none => [c]

/-- Whether the next character that is not case-ignorable has a case. -/
def startsWithCased (text : List Char) : Bool :=
  match text.dropWhile isCaseIgnorable with
  | [] => false
  | c :: _ => isCased c

/-- Lower-cases a text that stands after a cased letter (with case-ignorable characters between) or
not.
-/
def lowerAfter : Bool → List Char → List Char
  | _, [] => []
  | afterCased, c :: rest =>
    let next := if isCaseIgnorable c then afterCased else isCased c
    if c == 'Σ' then
      (if afterCased && !startsWithCased rest then 'ς' else 'σ') :: lowerAfter next rest
    else
      lowerChar c ++ lowerAfter next rest

/-- The text in lower case. -/
def lowercase (text : List Char) : List Char :=
  lowerAfter false text

/-- The text in lower case, as a string. -/
def lowercaseString (text : String) : String :=
  String.ofList (lowercase text.toList)

/-- The full case folding of a character. -/
def foldChar (c : Char) : List Char :=
  match longFoldings.lookup c.toNat with
  | some codes => codes.map Char.ofNat
  | none =>
    match foldingRuns.findSome? (·.partner? c.toNat) with
    | some code => [Char.ofNat code]
    | none => if c == 'Σ' then ['σ'] else lowerChar c

/-- The text in a form that no longer depends on letter case. -/
def caseFold (text : List Char) : List Char :=
  text.flatMap foldChar

end Docpress.Text
