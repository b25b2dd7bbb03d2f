import Docpress.Proofs.Slug.LeastFree
import Docpress.Proofs.Text.Lowercase
import Docpress.Render.Tree

/-!
Slugs and White_Space. The parts of a text with a blank between them go into its slug each on its own, so
blanks at the ends of a text do not count, nor does it count which blanks a run is made of. The trimmed
text that is listed for a heading therefore has the slug of the heading.
-/

namespace Docpress

open Text

namespace Slug

/-- A text in lower case with a hyphen for every run of blanks within it. -/
def hyphenated (text : List Char) : List Char :=
  squeezeBlanks '-' false (trim (lowercase text))

/-- The rest of a slug is made from the hyphenated text alone. -/
theorem chars_congr {left right : List Char} (same : hyphenated left = hyphenated right)
    : chars left = chars right :=
  congrArg (fun text => collapseHyphens false ((spellAmpersands text).filter isSlugChar)) same

/-- All that follows about blanks comes from this equation. -/
theorem hyphenated_append {c : Char} (blank : isWhiteSpace c = true) (left right : List Char)
    : hyphenated (left ++ c :: right) = joinWith '-' (hyphenated left) (hyphenated right) := by
  rw [hyphenated, lowercase_append blank, squeeze_trim_append '-' blank]
  rfl

/-- Blanks in front of a text leave no hyphen, by induction on the blanks. -/
theorem hyphenated_blank_append {before : List Char} (blank : Blank before) (text : List Char)
    : hyphenated (before ++ text) = hyphenated text := by
  induction before with
  | nil => rfl
  | cons c before ih =>
      obtain ⟨here, later⟩ := List.forall_mem_cons.mp blank
      calc hyphenated (c :: before ++ text)
          = joinWith '-' (hyphenated []) (hyphenated (before ++ text)) :=
            hyphenated_append here [] (before ++ text)
        _ = hyphenated text := (joinWith_nil_left '-' _).trans (ih later)

/-- Any run of blanks joins the two sides of it. -/
theorem hyphenated_run {run : List Char} (blank : Blank run) (filled : run ≠ [])
    (left right : List Char)
    : hyphenated (left ++ (run ++ right)) = joinWith '-' (hyphenated left) (hyphenated right) := by
  cases run with
  | nil => exact absurd rfl filled
  | cons c run =>
      obtain ⟨here, later⟩ := List.forall_mem_cons.mp blank
      rw [List.cons_append, hyphenated_append here, hyphenated_blank_append later]

/-- Blanks behind a text leave no hyphen. -/
theorem hyphenated_append_blank {after : List Char} (blank : Blank after) (text : List Char)
    : hyphenated (text ++ after) = hyphenated text := by
  by_cases filled : after = []
  · rw [filled, List.append_nil]
  · have run := hyphenated_run blank filled text []
    rw [List.append_nil] at run
    exact run.trans (joinWith_nil_right '-' _)

end Slug

/-- Texts that are hyphenated alike have one slug, since the later passes see nothing else. -/
theorem slugify_congr {left right : String}
    (same : Slug.hyphenated left.toList = Slug.hyphenated right.toList)
    : slugify left = slugify right :=
  congrArg String.ofList (Slug.chars_congr same)

/-- Blanks around a text make no difference to its slug. -/
theorem slugify_blanks_around {before after : String} (beforeBlank : Blank before.toList)
    (afterBlank : Blank after.toList) (text : String)
    : slugify (before ++ text ++ after) = slugify text := by
  refine slugify_congr ?_
  rw [String.toList_append, String.toList_append, Slug.hyphenated_append_blank afterBlank,
    Slug.hyphenated_blank_append beforeBlank]

/-- Trimming a text makes no difference to its slug. -/
theorem slugify_trim (text : String)
    : slugify (String.ofList (trim text.toList)) = slugify text := by
  obtain ⟨before, core, after, same, beforeBlank, trimmed, afterBlank⟩ := exists_core text.toList
  refine slugify_congr ?_
  rw [String.toList_ofList, same, trim_between beforeBlank trimmed afterBlank,
    Slug.hyphenated_blank_append beforeBlank, Slug.hyphenated_append_blank afterBlank]

/-- Without suffixes every heading is listed with its trimmed text and the slug of its full text. -/
theorem headers_verbatim {options : RenderOptions} (verbatim : options.headingIds = .verbatim)
    (tree : Node)
    : headers options tree
      = tree.headings.map fun heading =>
          ⟨String.ofList (trim heading.2.toList), heading.1, slugify heading.2⟩ := by
  rw [headers, headingIds, SlugTracker.assignAll_verbatim verbatim, List.map_map,
    List.zipWith_map_right]
  exact List.zipWith_self

/-- Without suffixes the listed text of a heading determines its identifier, although that was made from
the text before it was trimmed. Blanks at the ends of a text do not change its slug, and neither does
another run of blanks in the place of one.
-/
theorem listed_text_determines_id {options : RenderOptions}
    (verbatim : options.headingIds = .verbatim) (tree : Node)
    : (∀ header ∈ headers options tree, header.id = slugify header.text)
      ∧ (∀ before text after : String,
          Blank before.toList
          → Blank after.toList
          → slugify (before ++ text ++ after) = slugify text)
      ∧ ∀ left run other right : String,
          Blank run.toList
          → Blank other.toList
          → run ≠ ""
          → other ≠ ""
          → slugify (left ++ run ++ right) = slugify (left ++ other ++ right) := by
  refine ⟨fun header listed => ?_, fun _ text _ beforeBlank afterBlank => ?_, ?_⟩
  · rw [headers_verbatim verbatim] at listed
    obtain ⟨heading, _, rfl⟩ := List.mem_map.mp listed
    exact (slugify_trim heading.2).symm
  · exact slugify_blanks_around beforeBlank afterBlank text
  · intro left run other right runBlank otherBlank runFilled otherFilled
    refine slugify_congr ?_
    have filled {text : String} (nonempty : text ≠ "") : text.toList ≠ [] := by
      rwa [ne_eq, String.toList_eq_nil_iff]
    simp only [String.toList_append, List.append_assoc]
    rw [Slug.hyphenated_run runBlank (filled runFilled),
      Slug.hyphenated_run otherBlank (filled otherFilled)]

/-- A heading with blanks of several kinds, some of them behind a sigma. -/
def blankSample : Node :=
  .plain .document [.heading 2 "\u3000A\u00a0 \u039f\u03a3\t\u2028B "]

/-- The blanks at the ends of the heading are not listed, and those within it may be others. -/
theorem listed_text_of_blankSample
    : ({} : RenderOptions).headingIds = .verbatim
      ∧ headers {} blankSample = [⟨"A\u00a0 \u039f\u03a3\t\u2028B", 2, "a-b"⟩]
      ∧ slugify "A\u00a0 \u039f\u03a3\t\u2028B" = "a-b"
      ∧ slugify "\u2003A B\n" = slugify "A B"
      ∧ slugify "\u039f\u03a3\t\u2028B" = slugify "\u039f\u03a3 B" := by
  have listed : headers {} blankSample = [⟨"A\u00a0 \u039f\u03a3\t\u2028B", 2, "a-b"⟩] := by
    decide +kernel
  obtain ⟨same, around, within⟩ := @listed_text_determines_id {} rfl blankSample
  rw [listed, List.forall_mem_singleton] at same
  have ends := around "\u2003" "A B" "\n" (by decide +kernel) (by decide +kernel)
  have runs := within "\u039f\u03a3" "\t\u2028" " " "B" (by decide +kernel) (by decide +kernel)
    (by decide) (by decide)
  exact ⟨rfl, listed, same.symm, ends, runs⟩

end Docpress
