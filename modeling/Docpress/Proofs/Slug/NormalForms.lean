import Docpress.Proofs.Text.Lowercase
import Docpress.Slug
import Mathlib.Data.List.Chain
import Mathlib.Data.Set.Operations

/-!
The normal forms of slugs: texts of small letters, digits, underscores and hyphens without two hyphens in
a row. Every slug is one, since the last pass leaves no hyphen behind another; and every pass leaves a
normal form as it is, so all of them are slugs.
-/

namespace Docpress

open Text

namespace Slug

/-- The characters of an anchor: the letters from `a` to `z`, the digits, the underscore and the hyphen. -/
def IsAnchorChar (c : Char) : Prop :=
  ('a' ≤ c ∧ c ≤ 'z') ∨ ('0' ≤ c ∧ c ≤ '9') ∨ c = '_' ∨ c = '-'

/-- A text that can be the identifier of a heading. -/
structure IsAnchor (text : List Char) : Prop where
  characters : ∀ c ∈ text, IsAnchorChar c
  spaced : text.IsChain fun one next => ¬(one = '-' ∧ next = '-')

/-- The characters that a slug keeps are those of anchors. -/
theorem isSlugChar_iff {c : Char} : isSlugChar c = true ↔ IsAnchorChar c := by
  simp only [isSlugChar, IsAnchorChar, Bool.or_eq_true, Bool.and_eq_true, decide_eq_true_eq,
    beq_iff_eq, or_assoc]

-----------------------------------------------------------------------------------------
-- Slugs are normal forms
-----------------------------------------------------------------------------------------

/-- Collapsing hyphens leaves hyphens out and does nothing else, by induction on the text. -/
theorem collapseHyphens_sublist (inRun : Bool) (text : List Char)
    : (collapseHyphens inRun text).Sublist text := by
  induction text generalizing inRun with
  | nil => exact List.Sublist.refl []
  | cons c rest ih =>
      rw [collapseHyphens]
      split
      next hyphen =>
        rw [beq_iff_eq.mp hyphen]
        split
        · exact (ih true).cons _
        · exact (ih true).cons_cons _
      next => exact (ih false).cons_cons _

/-- Behind a hyphen no further one is written. -/
theorem head?_collapseHyphens (text : List Char)
    : (collapseHyphens true text).head? ≠ some '-' := by
  induction text with
  | nil => exact nofun
  | cons c rest ih =>
      rw [collapseHyphens]
      split
      next => exact ih
      next other =>
        intro first
        exact other (beq_iff_eq.mpr (Option.some.inj first))

/-- After hyphens are collapsed no two of them stand side by side, by induction on the text. -/
theorem isChain_collapseHyphens (inRun : Bool) (text : List Char)
    : (collapseHyphens inRun text).IsChain fun one next => ¬(one = '-' ∧ next = '-') := by
  induction text generalizing inRun with
  | nil => exact List.isChain_nil
  | cons c rest ih =>
      rw [collapseHyphens]
      split
      next hyphen =>
        split
        · exact ih true
        · refine List.isChain_cons.mpr ⟨fun next follows both => ?_, ih true⟩
          exact head?_collapseHyphens rest (both.2 ▸ follows)
      next other =>
        refine List.isChain_cons.mpr ⟨fun next _ both => ?_, ih false⟩
        exact other (beq_iff_eq.mpr both.1)

/-- A slug is an anchor: its characters are filtered, and its hyphens collapsed. -/
theorem isAnchor_chars (text : List Char) : IsAnchor (chars text) where
  characters c member := by
    have kept := (collapseHyphens_sublist false _).subset member
    exact isSlugChar_iff.mp (List.mem_filter.mp kept).2
  spaced := isChain_collapseHyphens false _

-----------------------------------------------------------------------------------------
-- Normal forms are slugs
-----------------------------------------------------------------------------------------

/-- The characters of anchors by their code points, for what is decided on numbers. -/
theorem IsAnchorChar.toNat_bounds {c : Char} (anchor : IsAnchorChar c)
    : (97 ≤ c.toNat ∧ c.toNat ≤ 122) ∨ (48 ≤ c.toNat ∧ c.toNat ≤ 57)
      ∨ c.toNat = 95 ∨ c.toNat = 45 := by
  rcases anchor with letter | digit | rfl | rfl
  · exact Or.inl letter
  · exact Or.inr (Or.inl digit)
  · exact Or.inr (Or.inr (Or.inl rfl))
  · exact Or.inr (Or.inr (Or.inr rfl))

/-- No character of an anchor is a blank. -/
theorem IsAnchorChar.isWhiteSpace_eq_false {c : Char} (anchor : IsAnchorChar c)
    : isWhiteSpace c = false := by
  have bounds := anchor.toNat_bounds
  simp [isWhiteSpace, inRanges, whiteSpaceRanges]
  omega

/-- The characters of anchors are in lower case. -/
theorem IsAnchorChar.lowerChar_eq {c : Char} (anchor : IsAnchorChar c) : lowerChar c = [c] := by
  have bounds := anchor.toNat_bounds
  have ascii : c.toNat < 0x80 := by omega
  have small : ¬('A' ≤ c ∧ c ≤ 'Z') := by
    rintro ⟨low, high⟩
    have least : 65 ≤ c.toNat := low
    have most : c.toNat ≤ 90 := high
    omega
  rw [lowerChar, if_pos ascii, asciiLower, if_neg (by simpa using small)]

/-- An anchor has no ampersands to spell out. -/
theorem spellAmpersands_of_anchor {text : List Char} (anchors : ∀ c ∈ text, IsAnchorChar c)
    : spellAmpersands text = text := by
  have alone : ∀ c ∈ text, (if c == '&' then ['-', 'a', 'n', 'd', '-'] else [c]) = [c] := by
    intro c member
    refine if_neg fun same => ?_
    rw [beq_iff_eq.mp same] at member
    exact absurd (anchors '&' member).toNat_bounds (by decide)
  rw [spellAmpersands, List.flatMap_congr alone]
  exact List.flatMap_singleton' text

/-- Hyphens that stand alone are kept, by induction on the text. -/
theorem collapseHyphens_of_spaced {inRun : Bool} {text : List Char}
    (spaced : text.IsChain fun one next => ¬(one = '-' ∧ next = '-'))
    (apart : inRun = true → text.head? ≠ some '-')
    : collapseHyphens inRun text = text := by
  induction text generalizing inRun with
  | nil => rfl
  | cons c rest ih =>
      obtain ⟨first, later⟩ := List.isChain_cons.mp spaced
      rw [collapseHyphens]
      by_cases hyphen : c = '-'
      · subst hyphen
        cases inRun with
        | true => exact absurd rfl (apart rfl)
        | false =>
            have next : (true = true) → rest.head? ≠ some '-' :=
              fun _ follows => first '-' follows ⟨rfl, rfl⟩
            rw [beq_self_eq_true, if_pos rfl, if_neg Bool.false_ne_true, ih later next]
      · have within : false = true → rest.head? ≠ some '-' := nofun
        rw [if_neg (by simpa using hyphen), ih later within]

/-- No pass changes a normal form. -/
theorem chars_of_isAnchor {text : List Char} (anchor : IsAnchor text) : chars text = text := by
  have printed : ∀ c ∈ text, isWhiteSpace c = false :=
    fun c member => (anchor.characters c member).isWhiteSpace_eq_false
  have kept : ∀ c ∈ text, isSlugChar c = true :=
    fun c member => isSlugChar_iff.mpr (anchor.characters c member)
  have lower : lowercase text = text :=
    lowerAfter_of_lower (fun c member => (anchor.characters c member).lowerChar_eq) false
  have within : false = true → text.head? ≠ some '-' := nofun
  rw [Slug.chars, lower, trim_of_trimmed (trimmed_of_printed printed),
    squeezeBlanks_of_printed '-' printed, spellAmpersands_of_anchor anchor.characters,
    List.filter_eq_self.mpr kept, collapseHyphens_of_spaced anchor.spaced within]

end Slug

/-- Whatever the text is, its slug is an anchor. -/
theorem isAnchor_slugify (text : String) : Slug.IsAnchor (slugify text).toList := by
  rw [slugify, String.toList_ofList]
  exact Slug.isAnchor_chars text.toList

/-- An anchor is its own slug, so that slugs are slugs of themselves. -/
theorem slugify_of_isAnchor {text : String} (anchor : Slug.IsAnchor text.toList)
    : slugify text = text := by
  rw [slugify, Slug.chars_of_isAnchor anchor, String.ofList_toList]

/-- The slugs of all texts are exactly the normal forms, and these are their own slugs. So making a slug
of a slug changes nothing.
-/
theorem range_slugify
    : (∀ text, Slug.IsAnchor (slugify text).toList)
      ∧ (∀ text, slugify text = text ↔ Slug.IsAnchor text.toList)
      ∧ (∀ text, slugify (slugify text) = slugify text)
      ∧ Set.range slugify = { anchor | Slug.IsAnchor anchor.toList } := by
  refine ⟨isAnchor_slugify, fun text => ⟨fun same => ?_, slugify_of_isAnchor⟩,
    fun text => slugify_of_isAnchor (isAnchor_slugify text), Set.ext fun anchor => ⟨?_, ?_⟩⟩
  · rw [← same]
    exact isAnchor_slugify text
  · rintro ⟨text, rfl⟩
    exact isAnchor_slugify text
  · exact fun normal => ⟨anchor, slugify_of_isAnchor normal⟩

end Docpress
