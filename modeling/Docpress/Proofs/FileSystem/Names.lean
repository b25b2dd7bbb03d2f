import Docpress.Path

/-!
The names in a path. No name holds a slash, and the name that a path is given in a directory is the
last one of the path that results.
-/

namespace Docpress.Path

/-- Whether a piece of a path names an entry of the directory before it. -/
def IsName (name : String) : Prop :=
  isStay name = false ∧ name ≠ ".."

/-- A name is a piece that leads somewhere: it is not empty, one point or two points. -/
theorem isName_iff {name : String} : IsName name ↔ name ≠ "" ∧ name ≠ "." ∧ name ≠ ".." := by
  unfold IsName isStay
  rw [Bool.or_eq_false_iff, beq_eq_false_iff_ne, beq_eq_false_iff_ne, and_assoc]

/-- A text has one piece at least, be it an empty one. -/
theorem splitAtSlashes_ne_nil (text : List Char) : splitAtSlashes text ≠ [] := by
  cases text with
  | nil => simp only [splitAtSlashes, ne_eq, List.cons_ne_self, not_false_eq_true]
  | cons c rest =>
      rw [splitAtSlashes]
      split
      · exact List.cons_ne_nil _ _
      · split <;> exact List.cons_ne_nil _ _

/-- A text without slashes is one piece, by induction on the text. -/
theorem splitAtSlashes_slashless {name : List Char} (slashless : '/' ∉ name)
    : splitAtSlashes name = [name] := by
  induction name with
  | nil => rfl
  | cons c rest ih =>
      rw [List.mem_cons, not_or] at slashless
      obtain ⟨other, later⟩ := slashless
      rw [splitAtSlashes, if_neg (by simpa using Ne.symm other), ih later]

/-- A slash ends the pieces in front of it, and the pieces behind it follow. The induction is on the
front.
-/
theorem splitAtSlashes_append (front back : List Char)
    : splitAtSlashes (front ++ '/' :: back) = splitAtSlashes front ++ splitAtSlashes back := by
  induction front with
  | nil => rfl
  | cons c rest ih =>
      rw [List.cons_append, splitAtSlashes, splitAtSlashes, ih]
      split
      · rfl
      · cases parts : splitAtSlashes rest with
        | nil => exact absurd parts (splitAtSlashes_ne_nil rest)
        | cons piece pieces => rfl

/-- The pieces of a text have no slashes, by induction on the text. -/
theorem slashless_of_mem_split {text piece : List Char} (member : piece ∈ splitAtSlashes text)
    : '/' ∉ piece := by
  induction text generalizing piece with
  | nil =>
      rw [splitAtSlashes, List.mem_singleton] at member
      subst member
      exact List.not_mem_nil
  | cons c rest ih =>
      rw [splitAtSlashes] at member
      split at member
      next slash =>
        rcases List.mem_cons.mp member with rfl | later
        · exact List.not_mem_nil
        · exact ih later
      next other =>
        have apart : '/' ≠ c := fun same => other (by rw [← same]; rfl)
        cases parts : splitAtSlashes rest with
        | nil => exact absurd parts (splitAtSlashes_ne_nil rest)
        | cons first pieces =>
            rw [parts] at member
            rcases List.mem_cons.mp member with rfl | later
            · rw [List.mem_cons, not_or]
              exact ⟨apart, ih (parts ▸ List.mem_cons_self)⟩
            · exact ih (parts ▸ List.mem_cons_of_mem _ later)

/-- The pieces of a path have no slashes. -/
theorem slashless_of_mem_pieces {path : Path} {name : String} (member : name ∈ path.pieces)
    : '/' ∉ name.toList := by
  have split : name ∈ (splitAtSlashes path.text.toList).map String.ofList := by
    unfold pieces at member
    split at member
    · exact List.mem_of_mem_drop member
    · exact member
  obtain ⟨piece, listed, rfl⟩ := List.mem_map.mp split
  rw [String.toList_ofList]
  exact slashless_of_mem_split listed

/-- The last piece of a path is the last one of its text, because a slash at the start has a piece on
either side.
-/
theorem getLast?_pieces (path : Path)
    : path.pieces.getLast? = (splitAtSlashes path.text.toList).getLast?.map String.ofList := by
  unfold pieces
  rw [← List.getLast?_map]
  split
  next absolute =>
    obtain ⟨rest, text⟩ := List.head?_eq_some_iff.mp (eq_of_beq absolute)
    rw [text, splitAtSlashes, if_pos (beq_self_eq_true '/'), List.map_cons, List.drop_one,
      List.tail_cons]
    cases parts : splitAtSlashes rest with
    | nil => exact absurd parts (splitAtSlashes_ne_nil rest)
    | cons piece pieces => rfl
  next => rfl

/-- The text of the path of a file ends in the name, with a slash before it if there is anything. -/
theorem toList_join (directory : Path) (name : String)
    : (directory.join name).text.toList = name.toList
      ∨ ∃ front, (directory.join name).text.toList = front ++ '/' :: name.toList := by
  unfold join
  split
  next given =>
    rcases Bool.or_eq_true_iff.mp given with empty | slash
    · left
      rw [String.isEmpty_iff.mp empty, String.empty_append]
    · right
      have last := eq_of_beq slash
      obtain ⟨front, text⟩ := List.getLast?_eq_some_iff.mp last
      exact ⟨front, by rw [String.toList_append, text, List.append_assoc]; rfl⟩
  next =>
    right
    refine ⟨directory.text.toList, ?_⟩
    rw [String.toList_append, String.toList_append, List.append_assoc]
    rfl

/-- The last piece is empty only if the text is, or ends in a slash. -/
theorem getLast?_pieces_eq_empty_iff {path : Path}
    : path.pieces.getLast? = some "" ↔ path.text.isEmpty = true ∨ path.endsInSlash = true := by
  have known (last : List Char) : some (String.ofList last) = some "" ↔ last = [] := by
    rw [Option.some.injEq, String.ofList_eq_empty_iff]
  rw [getLast?_pieces, endsInSlash, beq_iff_eq, String.isEmpty_iff, ← String.toList_eq_nil_iff]
  by_cases slash : '/' ∈ path.text.toList
  · -- What stands behind the last slash is the last piece.
    obtain ⟨back, front, reversed, slashless⟩ :=
      List.eq_append_cons_of_mem (List.mem_reverse.mpr slash)
    have text : path.text.toList = front.reverse ++ '/' :: back.reverse := by
      rw [← List.reverse_reverse path.text.toList, reversed]
      simp
    have last : path.text.toList.getLast? = (back ++ '/' :: front).head? := by
      rw [← reversed, List.head?_reverse]
    rw [last, text, splitAtSlashes_append,
      splitAtSlashes_slashless (fun within => slashless (List.mem_reverse.mp within)),
      List.getLast?_concat, Option.map_some, known]
    cases back with
    | nil => simp
    | cons c rest =>
        have other : c ≠ '/' := fun same => slashless (same ▸ List.mem_cons_self)
        simp [other]
  · rw [splitAtSlashes_slashless slash, List.getLast?_singleton, Option.map_some, known]
    constructor
    · exact Or.inl
    · rintro (nothing | last)
      · exact nothing
      · exact absurd (List.mem_of_getLast? last) slash

/-- The last piece of a path that a name is joined to is the name, whatever the directory is. -/
theorem getLast?_pieces_join (directory : Path) {name : String} (slashless : '/' ∉ name.toList)
    : (directory.join name).pieces.getLast? = some name := by
  rw [getLast?_pieces]
  rcases toList_join directory name with text | ⟨front, text⟩
  · rw [text, splitAtSlashes_slashless slashless, List.getLast?_singleton, Option.map_some,
      String.ofList_toList]
  · rw [text, splitAtSlashes_append, splitAtSlashes_slashless slashless, List.getLast?_concat,
      Option.map_some, String.ofList_toList]

/-- A path whose last piece is a name has that file name. -/
theorem fileName?_of_getLast? {path : Path} {name : String} (last : path.pieces.getLast? = some name)
    (proper : IsName name)
    : path.fileName? = some name := by
  obtain ⟨names, split⟩ := List.getLast?_eq_some_iff.mp last
  have kept : dropStays path.pieces = path.pieces := by
    rw [split, dropStays, List.reverse_concat, List.dropWhile_cons_of_neg (by rw [proper.1]; decide),
      ← List.reverse_concat, List.reverse_reverse]
  unfold fileName?
  rw [kept, last]
  exact if_neg (by simpa using proper.2)

/-- The file name of a path is one of its names. -/
theorem fileName?_spec {path : Path} {name : String} (found : path.fileName? = some name)
    : name ∈ path.pieces ∧ IsName name := by
  unfold fileName? at found
  split at found
  next => cases found
  next last known =>
    split at found
    next => cases found
    next other =>
      cases found
      have member : name ∈ dropStays path.pieces := List.mem_of_getLast? known
      unfold dropStays at member known
      rw [List.getLast?_reverse] at known
      refine ⟨?_, ?_, by simpa using other⟩
      · exact List.mem_reverse.mp
          ((List.dropWhile_sublist _).subset (List.mem_reverse.mp member))
      · have head := List.head?_dropWhile_not isStay path.pieces.reverse
        rw [known] at head
        exact head

/-- The stem of a name with an extension, if the stem has a character and the extension no dot. -/
theorem splitName_extension {stem extension : String} (named : stem ≠ "")
    (dotless : '.' ∉ extension.toList)
    : (splitName (stem ++ "." ++ extension)).1 = stem := by
  have reversed : (stem ++ "." ++ extension).toList.reverse
      = extension.toList.reverse ++ '.' :: stem.toList.reverse := by
    rw [String.toList_append, String.toList_append, List.reverse_append, List.reverse_append]
    rfl
  have rest : ((stem ++ "." ++ extension).toList.reverse.dropWhile (· != '.')).drop 1
      = stem.toList.reverse := by
    have passed : ∀ c ∈ extension.toList.reverse, (c != '.') = true := by
      intro c member
      exact bne_iff_ne.mpr fun dot => dotless (dot ▸ List.mem_reverse.mp member)
    rw [reversed, List.dropWhile_append_of_pos passed, List.dropWhile_cons_of_neg (by decide)]
    rfl
  unfold splitName
  simp only [rest]
  rw [if_neg, List.reverse_reverse, String.ofList_toList]
  simpa using named

/-- A stem is a part of its name, and has a character if the name does. -/
theorem splitName_fst (name : String)
    : (∀ c ∈ (splitName name).1.toList, c ∈ name.toList)
      ∧ (name ≠ "" → (splitName name).1 ≠ "") := by
  unfold splitName
  dsimp only
  split
  next => exact ⟨fun c member => member, id⟩
  next nonempty =>
    constructor
    · intro c member
      rw [String.toList_ofList, List.mem_reverse] at member
      exact List.mem_reverse.mp
        ((List.dropWhile_sublist _).subset ((List.drop_sublist _ _).subset member))
    · intro _ empty
      refine nonempty ?_
      have chars := String.toList_eq_nil_iff.mpr empty
      rwa [String.toList_ofList, List.reverse_eq_nil_iff, ← List.isEmpty_iff] at chars

end Docpress.Path
