import Docpress.Slug

/-!
Slugs in one pass. The passes that make a slug one after another come to the same as reading the
lower-cased and trimmed text once, from left to right, with nothing in mind but the slug so far: what is
written next depends on whether that ends in a hyphen.
-/

namespace Docpress.Slug

open Text

/-- A slug so far, with a hyphen at its end. -/
def hyphenate (slug : List Char) : List Char :=
  if slug.getLast? = some '-' then slug else slug ++ ['-']

/-- The letters, the digits and the underscore: the characters that a slug keeps as they are. -/
def isWordChar (c : Char) : Bool :=
  ('a' ≤ c && c ≤ 'z') || ('0' ≤ c && c ≤ '9') || c == '_'

/-- A slug so far, with what one more character of the text adds to it. -/
def write (slug : List Char) (c : Char) : List Char :=
  if isWhiteSpace c || c == '-' then hyphenate slug
  else if c == '&' then hyphenate slug ++ ['a', 'n', 'd', '-']
  else if isWordChar c then slug ++ [c]
  else slug

/-- The slug of a lower-cased and trimmed text in one pass. -/
def onePass (text : List Char) : List Char :=
  text.foldl write []

/-- A slug keeps the characters of words, and hyphens. -/
theorem isSlugChar_eq (c : Char) : isSlugChar c = (isWordChar c || c == '-') := rfl

/-- After hyphenating, a slug ends with a hyphen. -/
@[simp]
theorem getLast?_hyphenate (slug : List Char) : (hyphenate slug).getLast? = some '-' := by
  unfold hyphenate
  split
  next ends => exact ends
  next => exact List.getLast?_concat

/-- A slug that ends with a hyphen is not hyphenated again. -/
theorem hyphenate_of_getLast? {slug : List Char} (ends : slug.getLast? = some '-')
    : hyphenate slug = slug :=
  if_pos ends

/-- A slug that ends with another character gets a hyphen behind it. -/
theorem hyphenate_concat {c : Char} (other : c ≠ '-') (slug : List Char)
    : hyphenate (slug ++ [c]) = slug ++ [c, '-'] := by
  unfold hyphenate
  rw [List.getLast?_concat, if_neg (by simpa using other), List.append_assoc]
  rfl

-----------------------------------------------------------------------------------------
-- The last two passes
-----------------------------------------------------------------------------------------

/-- A slug so far, with one more character unless that is a hyphen behind a hyphen. -/
def push (slug : List Char) (c : Char) : List Char :=
  if c == '-' then hyphenate slug else slug ++ [c]

/-- Hyphens are collapsed by looking at the end of what is there. By induction on the text, over all that
may be there already.
-/
theorem append_collapseHyphens {inRun : Bool} {slug : List Char}
    (state : inRun = true ↔ slug.getLast? = some '-') (text : List Char)
    : slug ++ collapseHyphens inRun text = text.foldl push slug := by
  induction text generalizing inRun slug with
  | nil => exact List.append_nil slug
  | cons c rest ih =>
      rw [collapseHyphens, List.foldl_cons, push]
      by_cases hyphen : c = '-'
      · subst hyphen
        rw [beq_self_eq_true, if_pos rfl, if_pos rfl,
          ← ih (iff_of_true rfl (getLast?_hyphenate slug))]
        cases inRun with
        | true => rw [if_pos rfl, hyphenate_of_getLast? (state.mp rfl)]
        | false =>
            have other : slug.getLast? ≠ some '-' := fun ends => nomatch state.mpr ends
            rw [if_neg Bool.false_ne_true, hyphenate, if_neg other, List.append_assoc,
              List.singleton_append]
      · have plain : (c == '-') = false := beq_eq_false_iff_ne.mpr hyphen
        have next : false = true ↔ (slug ++ [c]).getLast? = some '-' := by
          rw [List.getLast?_concat, Option.some.injEq]
          exact iff_of_false Bool.false_ne_true hyphen
        rw [plain, if_neg Bool.false_ne_true, if_neg Bool.false_ne_true, ← ih next,
          List.append_assoc, List.singleton_append]

/-- A slug so far, with what one character adds to it once blanks have become hyphens. -/
def spell (slug : List Char) (c : Char) : List Char :=
  (if c == '&' then ['-', 'a', 'n', 'd', '-'] else [c]).foldl
    (fun slug c => if isSlugChar c then push slug c else slug) slug

/-- Spelling out ampersands, filtering and collapsing hyphens come to spelling one character after
another, as the last character of the buffer says whether a run of hyphens has begun.
-/
theorem collapseHyphens_spelled (text : List Char)
    : collapseHyphens false ((spellAmpersands text).filter isSlugChar) = text.foldl spell [] := by
  have start : false = true ↔ ([] : List Char).getLast? = some '-' := by simp
  have collapsed := append_collapseHyphens start ((spellAmpersands text).filter isSlugChar)
  rw [List.nil_append] at collapsed
  rw [collapsed, List.foldl_filter, spellAmpersands, List.foldl_flatMap]
  rfl

-----------------------------------------------------------------------------------------
-- Blanks
-----------------------------------------------------------------------------------------

/-- A hyphen is spelled by hyphenating. -/
theorem spell_hyphen (slug : List Char) : spell slug '-' = hyphenate slug := rfl

/-- An ampersand is spelled as a word with hyphens around it. The one in front may be there already. -/
theorem spell_ampersand (slug : List Char) : spell slug '&' = hyphenate slug ++ ['a', 'n', 'd', '-'] := by
  have spelled : spell slug '&' = hyphenate (hyphenate slug ++ ['a'] ++ ['n'] ++ ['d']) := rfl
  rw [spelled, hyphenate_concat (by decide)]
  simp

/-- A character that is no blank is written in the one pass as in the passes after the first. -/
theorem write_of_not_whiteSpace {c : Char} (printed : isWhiteSpace c = false) (slug : List Char)
    : write slug c = spell slug c := by
  unfold write
  rw [printed, Bool.false_or]
  by_cases hyphen : c = '-'
  · subst hyphen
    exact (spell_hyphen slug).symm
  · rw [if_neg (by simpa using hyphen)]
    by_cases ampersand : c = '&'
    · subst ampersand
      exact (spell_ampersand slug).symm
    · simp [spell, push, isSlugChar_eq, hyphen, ampersand]

/-- Blanks are squeezed by looking at the end of what is there: within a run it ends in the hyphen that
stands for the run. By induction on the text.
-/
theorem foldl_squeezeBlanks {inRun : Bool} {slug : List Char}
    (state : inRun = true → slug.getLast? = some '-') (text : List Char)
    : (squeezeBlanks '-' inRun text).foldl spell slug = text.foldl write slug := by
  induction text generalizing inRun slug with
  | nil => rfl
  | cons c rest ih =>
      rw [squeezeBlanks, List.foldl_cons]
      cases blank : isWhiteSpace c with
      | true =>
          have written : write slug c = hyphenate slug := by simp [write, blank]
          rw [if_pos rfl, written]
          cases inRun with
          | true =>
              rw [if_pos rfl, hyphenate_of_getLast? (state rfl)]
              exact ih state
          | false =>
              rw [if_neg Bool.false_ne_true, List.foldl_cons, spell_hyphen]
              exact ih fun _ => getLast?_hyphenate slug
      | false =>
          rw [if_neg Bool.false_ne_true, List.foldl_cons, write_of_not_whiteSpace blank]
          exact ih fun within => nomatch within

/-- The slug of every text is what one pass over the lower-cased and trimmed text writes. -/
theorem slugify_eq_onePass (text : String)
    : slugify text = String.ofList (onePass (trim (lowercase text.toList))) := by
  have start : false = true → ([] : List Char).getLast? = some '-' := nofun
  have squeezed := foldl_squeezeBlanks start (trim (lowercase text.toList))
  unfold slugify chars onePass
  rw [collapseHyphens_spelled, squeezed]

/-- Blanks, removed characters between hyphens and ampersands side by side. -/
example : slugify " A\u00a0 \t-&& (B) \u2014 c" = "a-and-and-b-c" := by decide +kernel

end Docpress.Slug
