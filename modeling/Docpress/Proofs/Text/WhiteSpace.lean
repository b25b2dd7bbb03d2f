import Docpress.Text.WhiteSpace
import Mathlib.Data.List.Basic
import Mathlib.Data.List.TakeWhile

/-!
Texts and the White_Space in them. Trimming finds the part of a text that has blanks around it and none
at its ends. Squeezing what is left gives one mark for every run of blanks, however long: parts of a text
with a blank between them are trimmed and squeezed on their own.
-/

namespace Docpress.Text

/-- A text of nothing but White_Space. -/
def Blank (text : List Char) : Prop :=
  ∀ c ∈ text, isWhiteSpace c = true

instance (text : List Char) : Decidable (Blank text) :=
  List.decidableBAll (isWhiteSpace · = true) text

/-- A text without White_Space at its two ends. -/
structure Trimmed (text : List Char) : Prop where
  first : ∀ c ∈ text.head?, isWhiteSpace c = false
  last : ∀ c ∈ text.getLast?, isWhiteSpace c = false

/-- Blanks behind blanks are blanks. -/
theorem Blank.append {left right : List Char} (leftBlank : Blank left) (rightBlank : Blank right)
    : Blank (left ++ right) :=
  List.forall_mem_append.mpr ⟨leftBlank, rightBlank⟩

/-- A blank in front of blanks makes blanks. -/
theorem Blank.cons {c : Char} {text : List Char} (first : isWhiteSpace c = true) (rest : Blank text)
    : Blank (c :: text) :=
  List.forall_mem_cons.mpr ⟨first, rest⟩

/-- A text is trimmed if White_Space is nowhere in it. -/
theorem trimmed_of_printed {text : List Char} (printed : ∀ c ∈ text, isWhiteSpace c = false)
    : Trimmed text where
  first c member := printed c (List.mem_of_mem_head? member)
  last c member := printed c (List.mem_of_mem_getLast? member)

/-- What stands between two trimmed texts may be anything. -/
theorem Trimmed.around {left right : List Char} (leftTrimmed : Trimmed left)
    (rightTrimmed : Trimmed right) (leftFilled : left ≠ []) (rightFilled : right ≠ [])
    (between : List Char)
    : Trimmed (left ++ (between ++ right)) where
  first := by
    rw [List.head?_append_of_ne_nil left leftFilled]
    exact leftTrimmed.first
  last := by
    rw [← List.append_assoc, List.getLast?_append_of_ne_nil _ rightFilled]
    exact rightTrimmed.last

-----------------------------------------------------------------------------------------
-- Trimming
-----------------------------------------------------------------------------------------

/-- Nothing is dropped from a text that does not start with a blank. -/
theorem dropWhile_of_head? {text : List Char} (first : ∀ c ∈ text.head?, isWhiteSpace c = false)
    : text.dropWhile isWhiteSpace = text := by
  cases text with
  | nil => rfl
  | cons c rest => rw [List.dropWhile_cons, first c rfl, if_neg Bool.false_ne_true]

/-- Trimming takes off the blanks around a trimmed text, and nothing else. -/
theorem trim_between {before core after : List Char} (beforeBlank : Blank before)
    (trimmed : Trimmed core) (afterBlank : Blank after)
    : trim (before ++ (core ++ after)) = core := by
  rw [trim, trimBy, List.dropWhile_append_of_pos beforeBlank]
  cases core with
  | nil =>
      rw [List.nil_append, List.dropWhile_eq_nil_iff.mpr afterBlank]
      rfl
  | cons c rest =>
      have kept : (c :: rest ++ after).dropWhile isWhiteSpace = c :: rest ++ after :=
        dropWhile_of_head? trimmed.first
      have last : ∀ d ∈ (c :: rest).reverse.head?, isWhiteSpace d = false := by
        rw [List.head?_reverse]
        exact trimmed.last
      rw [kept, List.reverse_append,
        List.dropWhile_append_of_pos fun d member => afterBlank d (List.mem_reverse.mp member),
        dropWhile_of_head? last, List.reverse_reverse]

/-- A trimmed text has no blanks to trim. -/
theorem trim_of_trimmed {text : List Char} (trimmed : Trimmed text) : trim text = text := by
  have bare : trim ([] ++ (text ++ [])) = text := trim_between nofun trimmed nofun
  rwa [List.nil_append, List.append_nil] at bare

/-- Every text is a trimmed one with blanks around it. -/
theorem exists_core (text : List Char)
    : ∃ before core after,
        text = before ++ (core ++ after) ∧ Blank before ∧ Trimmed core ∧ Blank after := by
  have first_rest (text : List Char)
      : ∀ c ∈ (text.dropWhile isWhiteSpace).head?, isWhiteSpace c = false := by
    intro c member
    have known := List.head?_dropWhile_not isWhiteSpace text
    rwa [member] at known
  let rest := text.dropWhile isWhiteSpace
  let core := (rest.reverse.dropWhile isWhiteSpace).reverse
  let after := (rest.reverse.takeWhile isWhiteSpace).reverse
  have parts : rest = core ++ after := by
    rw [← List.reverse_append, List.takeWhile_append_dropWhile, List.reverse_reverse]
  have first : ∀ c ∈ core.head?, isWhiteSpace c = false := by
    intro c member
    have filled : core ≠ [] := List.ne_nil_of_mem (List.mem_of_mem_head? member)
    have same : rest.head? = core.head? := parts ▸ List.head?_append_of_ne_nil core filled
    exact first_rest text c (same.trans member)
  have last : ∀ c ∈ core.getLast?, isWhiteSpace c = false := by
    rw [List.getLast?_reverse]
    exact first_rest rest.reverse
  refine ⟨text.takeWhile isWhiteSpace, core, after, ?_, fun _ => List.mem_takeWhile_imp,
    ⟨first, last⟩, fun c member => List.mem_takeWhile_imp (List.mem_reverse.mp member)⟩
  rw [← parts, List.takeWhile_append_dropWhile]

-----------------------------------------------------------------------------------------
-- Squeezing
-----------------------------------------------------------------------------------------

variable (mark : Char)

/-- A text without blanks stays as it is, by induction on the text. -/
theorem squeezeBlanks_of_printed {text : List Char} (printed : ∀ c ∈ text, isWhiteSpace c = false)
    : squeezeBlanks mark false text = text := by
  induction text with
  | nil => rfl
  | cons c rest ih =>
      obtain ⟨here, later⟩ := List.forall_mem_cons.mp printed
      rw [squeezeBlanks, here, if_neg Bool.false_ne_true, ih later]

/-- Within a run, blanks leave no mark. -/
theorem squeezeBlanks_blank {run : List Char} (blank : Blank run) (rest : List Char)
    : squeezeBlanks mark true (run ++ rest) = squeezeBlanks mark true rest := by
  induction run with
  | nil => rfl
  | cons c run ih =>
      obtain ⟨here, later⟩ := List.forall_mem_cons.mp blank
      rw [List.cons_append, squeezeBlanks, here, if_pos rfl, if_pos rfl, ih later]

/-- Behind a blank nothing more is squeezed away, unless a further blank follows. -/
theorem squeezeBlanks_true_of_head? {text : List Char}
    (first : ∀ c ∈ text.head?, isWhiteSpace c = false)
    : squeezeBlanks mark true text = squeezeBlanks mark false text := by
  cases text with
  | nil => rfl
  | cons c rest =>
      rw [squeezeBlanks, squeezeBlanks, first c rfl, if_neg Bool.false_ne_true,
        if_neg Bool.false_ne_true]

/-- A run of blanks leaves one mark. -/
theorem squeezeBlanks_run {run rest : List Char} (blank : Blank run) (filled : run ≠ [])
    (first : ∀ c ∈ rest.head?, isWhiteSpace c = false)
    : squeezeBlanks mark false (run ++ rest) = mark :: squeezeBlanks mark false rest := by
  cases run with
  | nil => exact absurd rfl filled
  | cons c run =>
      obtain ⟨here, later⟩ := List.forall_mem_cons.mp blank
      rw [List.cons_append, squeezeBlanks, here, if_pos rfl, if_neg Bool.false_ne_true,
        squeezeBlanks_blank mark later, squeezeBlanks_true_of_head? mark first]

/-- Two parts are squeezed on their own if the first does not end within a run. By induction on it. -/
theorem squeezeBlanks_append {inRun : Bool} {left : List Char}
    (last : ∀ c ∈ left.getLast?, isWhiteSpace c = false) (outside : left = [] → inRun = false)
    (right : List Char)
    : squeezeBlanks mark inRun (left ++ right)
      = squeezeBlanks mark inRun left ++ squeezeBlanks mark false right := by
  induction left generalizing inRun with
  | nil => rw [outside rfl, List.nil_append, squeezeBlanks, List.nil_append]
  | cons c rest ih =>
      have later : ∀ d ∈ rest.getLast?, isWhiteSpace d = false := by
        intro d member
        refine last d ?_
        rw [List.getLast?_cons, Option.mem_def.mp member]
        rfl
      rw [List.cons_append, squeezeBlanks, squeezeBlanks]
      cases blank : isWhiteSpace c with
      | true =>
          have within : rest = [] → true = false := by
            rintro rfl
            exact blank.symm.trans (last c rfl)
          rw [if_pos rfl, if_pos rfl, ih later within]
          split <;> rfl
      | false =>
          rw [if_neg Bool.false_ne_true, if_neg Bool.false_ne_true, ih later fun _ => rfl]
          rfl

/-- A text with anything in it leaves something, if only the mark for its first blanks. -/
theorem squeezeBlanks_ne_nil {text : List Char} (filled : text ≠ [])
    : squeezeBlanks mark false text ≠ [] := by
  cases text with
  | nil => exact absurd rfl filled
  | cons c rest =>
      rw [squeezeBlanks]
      split
      · exact List.cons_ne_nil _ _
      · exact List.cons_ne_nil _ _

/-- Two texts with a mark between them if both have something in them. -/
def joinWith (left right : List Char) : List Char :=
  if left = [] then right
  else if right = [] then left
  else left ++ mark :: right

/-- Without a left part there is nothing to join the right one to. -/
theorem joinWith_nil_left (right : List Char) : joinWith mark [] right = right :=
  if_pos rfl

/-- Without a right part there is nothing to join the left one to. -/
theorem joinWith_nil_right (left : List Char) : joinWith mark left [] = left := by
  unfold joinWith
  split
  next empty => exact empty.symm
  next => exact if_pos rfl

/-- A text with a blank in it is trimmed and squeezed part by part. -/
theorem squeeze_trim_append {c : Char} (blank : isWhiteSpace c = true) (left right : List Char)
    : squeezeBlanks mark false (trim (left ++ c :: right))
      = joinWith mark (squeezeBlanks mark false (trim left))
          (squeezeBlanks mark false (trim right)) := by
  obtain ⟨before, first, inner, rfl, beforeBlank, firstTrimmed, innerBlank⟩ := exists_core left
  obtain ⟨outer, last, after, rfl, outerBlank, lastTrimmed, afterBlank⟩ := exists_core right
  rw [trim_between beforeBlank firstTrimmed innerBlank, trim_between outerBlank lastTrimmed afterBlank]
  have runBlank : Blank (inner ++ c :: outer) := innerBlank.append (outerBlank.cons blank)
  -- A side without anything but blanks is trimmed away together with the run in the middle.
  by_cases firstEmpty : first = []
  · subst firstEmpty
    have parts : before ++ ([] ++ inner) ++ c :: (outer ++ (last ++ after))
        = before ++ (inner ++ c :: outer) ++ (last ++ after) := by simp
    rw [parts, trim_between (beforeBlank.append runBlank) lastTrimmed afterBlank]
    rfl
  · by_cases lastEmpty : last = []
    · subst lastEmpty
      have parts : before ++ (first ++ inner) ++ c :: (outer ++ ([] ++ after))
          = before ++ (first ++ (inner ++ c :: outer ++ after)) := by simp
      rw [parts, trim_between beforeBlank firstTrimmed (runBlank.append afterBlank)]
      exact (joinWith_nil_right mark _).symm
    · have parts : before ++ (first ++ inner) ++ c :: (outer ++ (last ++ after))
          = before ++ (first ++ (inner ++ c :: outer ++ last) ++ after) := by simp
      have trimmed := firstTrimmed.around lastTrimmed firstEmpty lastEmpty (inner ++ c :: outer)
      have filled : inner ++ c :: outer ≠ [] := by simp
      rw [parts, trim_between beforeBlank trimmed afterBlank,
        squeezeBlanks_append mark firstTrimmed.last fun _ => rfl,
        squeezeBlanks_run mark runBlank filled lastTrimmed.first, joinWith,
        if_neg (squeezeBlanks_ne_nil mark firstEmpty), if_neg (squeezeBlanks_ne_nil mark lastEmpty)]

end Docpress.Text
