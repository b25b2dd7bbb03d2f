import Docpress.FileSystem.Tree
import Docpress.Proofs.Association
import Docpress.Proofs.Fallible
import Docpress.Proofs.FileSystem.Names

/-!
Where reading and writing happen. The place of the file that a path names depends on the directories of
a tree alone, so it stays the same when files are written.
-/

namespace Docpress.FileTree

open Docpress.Path Fallible

/-- The directory in which relative paths start is there, with all directories that lead to it, so that
going up from it meets no file.
-/
def HereStands (tree : FileTree) : Prop :=
  ∀ place, place <+: tree.here → tree.holdsDirectory place = true

/-- Two trees with the same directories, which may differ in their files. -/
structure SameDirectories (first second : FileTree) : Prop where
  here : first.here = second.here
  directories : ∀ place, first.holdsDirectory place = second.holdsDirectory place

/-- The second tree has all directories of the first one. -/
structure KeepsDirectories (before after : FileTree) : Prop where
  here : after.here = before.here
  directories
    : ∀ place, before.holdsDirectory place = true → after.holdsDirectory place = true

/-- Two trees with the same entries in all places. -/
structure SameEntries (first second : FileTree) : Prop where
  here : first.here = second.here
  entries : ∀ place, first.entry? place = second.entry? place

/-- A path names the file in a place: its last piece is the name, in a directory that the pieces before
it lead to.
-/
inductive FilePlace (tree : FileTree) (path : Path) : List String → Prop where
  | intro {names : List String} {name : String} {directory : List String}
    (split : path.pieces = names ++ [name]) (proper : IsName name)
    (led : tree.walk (tree.start path) names = .ok directory)
    (stands : tree.holdsDirectory directory = true)
    : FilePlace tree path (directory ++ [name])

/-- A tree has its own directories. -/
theorem SameDirectories.refl (tree : FileTree) : SameDirectories tree tree :=
  ⟨rfl, fun _ => rfl⟩

/-- Having the same directories goes both ways. -/
theorem SameDirectories.symm {first second : FileTree} (same : SameDirectories first second)
    : SameDirectories second first :=
  ⟨same.here.symm, fun place => (same.directories place).symm⟩

/-- Trees with the directories of a third one have each other's. -/
theorem SameDirectories.trans {first second third : FileTree} (left : SameDirectories first second)
    (right : SameDirectories second third)
    : SameDirectories first third :=
  ⟨left.here.trans right.here, fun place => (left.directories place).trans (right.directories place)⟩

/-- A tree with the same directories has all directories of the first one. -/
theorem SameDirectories.keepsDirectories {first second : FileTree}
    (same : SameDirectories first second)
    : KeepsDirectories first second where
  here := same.here.symm
  directories place stands := same.directories place ▸ stands

/-- A tree keeps its own directories. -/
theorem KeepsDirectories.refl (tree : FileTree) : KeepsDirectories tree tree :=
  ⟨rfl, fun _ => id⟩

/-- Directories that are kept twice are kept. -/
theorem KeepsDirectories.trans {before middle after : FileTree}
    (first : KeepsDirectories before middle) (second : KeepsDirectories middle after)
    : KeepsDirectories before after where
  here := second.here.trans first.here
  directories place stands := second.directories place (first.directories place stands)

/-- Where directories are kept, those that lead to where relative paths start are there still. -/
theorem KeepsDirectories.hereStands {before after : FileTree} (keeps : KeepsDirectories before after)
    (stands : before.HereStands)
    : after.HereStands := by
  intro place leads
  apply keeps.directories
  exact stands place (keeps.here ▸ leads)

/-- The top of the tree is always there to start from. -/
theorem hereStands_of_top {tree : FileTree} (top : tree.here = []) : tree.HereStands := by
  intro place leads
  rw [top] at leads
  cases List.prefix_nil.mp leads
  rfl

/-- With the same directories, those that lead to where relative paths start are there as well. -/
theorem SameDirectories.hereStands {first second : FileTree} (same : SameDirectories first second)
    (stands : first.HereStands)
    : second.HereStands :=
  same.keepsDirectories.hereStands stands

/-- A directory is in a place if its entry says so. -/
theorem holdsDirectory_iff {tree : FileTree} {place : List String}
    : tree.holdsDirectory place = true ↔ tree.entry? place = some .directory := by
  unfold holdsDirectory
  rcases tree.entry? place with _ | _ | content <;>
    simp [FileEntry.isDirectory]

/-- A place with a file holds no directory. -/
theorem holdsDirectory_of_file {tree : FileTree} {place : List String} {content : ByteArray}
    (file : tree.entry? place = some (.file content))
    : tree.holdsDirectory place = false := by
  unfold holdsDirectory
  rw [file]
  rfl

/-- An entry is found where it is put, and all others are found where they were. -/
theorem entry?_put (tree : FileTree) {place : List String} (deep : place ≠ []) (entry : FileEntry)
    (other : List String)
    : FileTree.entry? (tree.put place entry) other
      = if other = place then some entry else tree.entry? other := by
  have updated : (tree.put place entry).entries = Association.update tree.entries place entry := by
    unfold put Association.update
    split <;> rfl
  cases other with
  | nil =>
      rw [if_neg (Ne.symm deep)]
      rfl
  | cons name names =>
      have known (tree : FileTree)
          : tree.entry? (name :: names) = tree.entries.lookup (name :: names) := rfl
      rw [known, known, updated, Association.lookup_update]
      simp only [beq_iff_eq]

/-- Putting an entry somewhere does not move the start of relative paths. -/
@[simp] theorem here_put (tree : FileTree) (place : List String) (entry : FileEntry)
    : (tree.put place entry).here = tree.here := by
  unfold put
  split <;> rfl

/-- A file in a place where no directory is leaves all directories as they are. -/
theorem sameDirectories_put {tree : FileTree} {place : List String} (deep : place ≠ [])
    (free : tree.holdsDirectory place = false) (content : ByteArray)
    : SameDirectories (tree.put place (.file content)) tree where
  here := here_put tree place _
  directories other := by
    unfold holdsDirectory
    rw [entry?_put tree deep]
    split
    next same =>
      subst same
      exact free.symm
    next => rfl

/-! ### Walks -/

/-- What a walk over a name does. It needs a directory, and goes on from there, from the directory above
or from the entry with the name.
-/
theorem walk_cons_eq_ok_iff {tree : FileTree} {place names last : List String} {name : String}
    : tree.walk place (name :: names) = .ok last
      ↔ tree.holdsDirectory place = true
        ∧ (isStay name = true ∧ tree.walk place names = .ok last
          ∨ name = ".." ∧ tree.walk place.dropLast names = .ok last
          ∨ IsName name ∧ (tree.entry? (place ++ [name])).isSome = true
            ∧ tree.walk (place ++ [name]) names = .ok last) := by
  rw [walk, holdsDirectory_iff]
  rcases tree.entry? place with _ | _ | content
  · simp only [reduceCtorEq, false_and]
  · by_cases stay : isStay name = true
    · have other : name ≠ ".." := by
        rintro rfl
        exact absurd stay (by decide)
      simp only [stay, if_true, IsName, other, true_and, false_and, or_false, reduceCtorEq]
    · by_cases above : name = ".."
      · subst above
        simp only [stay, IsName, beq_self_eq_true, if_true, if_false, true_and, false_and, false_or,
          ne_eq, not_true_eq_false, and_false, or_false, Bool.false_eq_true]
      · by_cases present : (tree.entry? (place ++ [name])).isSome = true
        · simp only [stay, above, present, IsName, beq_iff_eq, if_true, if_false, true_and, false_and,
            false_or, ne_eq, not_false_eq_true, Bool.false_eq_true]
        · simp only [stay, above, present, IsName, beq_iff_eq, if_false, true_and, false_and, and_false,
            or_false, Bool.false_eq_true, reduceCtorEq]
  · simp only [reduceCtorEq, Option.some.injEq, false_and]

/-- Walking along names and then along more of them is one walk, by induction on the names. -/
theorem walk_append (tree : FileTree) (place names more : List String)
    : tree.walk place (names ++ more) = tree.walk place names >>= fun last => tree.walk last more := by
  induction names generalizing place with
  | nil => rfl
  | cons name names ih =>
      rw [List.cons_append, walk, walk]
      split
      · rfl
      · rfl
      · split
        · exact ih place
        · split
          · exact ih place.dropLast
          · split
            · exact ih (place ++ [name])
            · rfl

/-- A walk that ends in a directory starts in one. -/
theorem holdsDirectory_of_walk {tree : FileTree} {place names last : List String}
    (led : tree.walk place names = .ok last) (stands : tree.holdsDirectory last = true)
    : tree.holdsDirectory place = true := by
  cases names with
  | nil =>
      cases led
      exact stands
  | cons name names => exact (walk_cons_eq_ok_iff.mp led).1

/-- A walk to a directory visits nothing but directories, so the files are of no account. By induction on
the names.
-/
theorem KeepsDirectories.walk {before after : FileTree} (keeps : KeepsDirectories before after)
    {place names last : List String} (led : before.walk place names = .ok last)
    (stands : before.holdsDirectory last = true)
    : after.walk place names = .ok last := by
  induction names generalizing place with
  | nil => exact led
  | cons name names ih =>
      obtain ⟨here, stay | above | named⟩ := walk_cons_eq_ok_iff.mp led
      all_goals refine walk_cons_eq_ok_iff.mpr ⟨keeps.directories place here, ?_⟩
      · exact Or.inl ⟨stay.1, ih stay.2⟩
      · exact Or.inr (Or.inl ⟨above.1, ih above.2⟩)
      · obtain ⟨proper, _, further⟩ := named
        have directory := keeps.directories _ (holdsDirectory_of_walk further stands)
        rw [holdsDirectory_iff] at directory
        exact Or.inr (Or.inr ⟨proper, Option.isSome_of_eq_some directory, ih further⟩)

/-- Empty pieces on the way to a directory make no difference. -/
theorem walk_filter {tree : FileTree} {place names last : List String}
    (stands : tree.holdsDirectory last = true)
    : tree.walk place (names.filter (· != "")) = .ok last ↔ tree.walk place names = .ok last := by
  induction names generalizing place with
  | nil => rfl
  | cons name names ih =>
      by_cases empty : name = ""
      · subst empty
        rw [List.filter_cons_of_neg (by decide), ih, walk_cons_eq_ok_iff]
        constructor
        · intro led
          exact ⟨holdsDirectory_of_walk led stands, Or.inl ⟨rfl, led⟩⟩
        · rintro ⟨_, stay | above | named⟩
          · exact stay.2
          · exact absurd above.1 (by decide)
          · exact absurd rfl (isName_iff.mp named.1).1
      · rw [List.filter_cons_of_pos (by simpa using empty), walk_cons_eq_ok_iff, walk_cons_eq_ok_iff]
        simp only [ih]

/-- A walk that ends in something else than a directory goes to a directory first, and from there over
one last name. By induction on the names, where all places on the way down to the present one are
directories.
-/
theorem walk_to_file {tree : FileTree} {place names last : List String}
    (standing : ∀ above, above <+: place → tree.holdsDirectory above = true)
    (led : tree.walk place names = .ok last) (file : tree.holdsDirectory last = false)
    : ∃ before name directory, names = before ++ [name] ∧ IsName name
      ∧ tree.walk place before = .ok directory ∧ tree.holdsDirectory directory = true
      ∧ last = directory ++ [name] := by
  induction names generalizing place with
  | nil =>
      cases led
      rw [standing last (List.prefix_refl last)] at file
      cases file
  | cons name names ih =>
      -- What is found for the rest of the names holds with the first name in front of them.
      have extend {next : List String}
          (enter : ∀ before target, tree.walk next before = .ok target
            → tree.walk place (name :: before) = .ok target)
          (found : ∃ before other directory, names = before ++ [other] ∧ IsName other
            ∧ tree.walk next before = .ok directory ∧ tree.holdsDirectory directory = true
            ∧ last = directory ++ [other])
          : ∃ before other directory, name :: names = before ++ [other] ∧ IsName other
            ∧ tree.walk place before = .ok directory ∧ tree.holdsDirectory directory = true
            ∧ last = directory ++ [other] := by
        obtain ⟨before, other, directory, rfl, proper, reached, stands, rfl⟩ := found
        exact ⟨name :: before, other, directory, rfl, proper, enter _ _ reached, stands, rfl⟩
      obtain ⟨here, ⟨stay, further⟩ | ⟨above, further⟩ | ⟨proper, present, further⟩⟩ :=
        walk_cons_eq_ok_iff.mp led
      · exact extend (fun before target reached =>
          walk_cons_eq_ok_iff.mpr ⟨here, Or.inl ⟨stay, reached⟩⟩) (ih standing further)
      · have standing' : ∀ high, high <+: place.dropLast → tree.holdsDirectory high = true :=
          fun high leads => standing high (leads.trans (List.dropLast_prefix place))
        exact extend (fun before target reached =>
          walk_cons_eq_ok_iff.mpr ⟨here, Or.inr (Or.inl ⟨above, reached⟩)⟩) (ih standing' further)
      · cases directory : tree.holdsDirectory (place ++ [name]) with
        | true =>
            have standing' : ∀ high, high <+: place ++ [name] → tree.holdsDirectory high = true := by
              intro high leads
              rcases List.prefix_concat_iff.mp leads with rfl | leads
              · exact directory
              · exact standing high leads
            exact extend (fun before target reached =>
              walk_cons_eq_ok_iff.mpr ⟨here, Or.inr (Or.inr ⟨proper, present, reached⟩)⟩)
              (ih standing' further)
        | false =>
            -- Nothing goes on from a file, so the name is the last one.
            cases names with
            | nil =>
                cases further
                exact ⟨[], name, place, rfl, proper, rfl, here, rfl⟩
            | cons other names =>
                rw [(walk_cons_eq_ok_iff.mp further).1] at directory
                cases directory

/-! ### Places of files -/

/-- No file is at the top of the tree. -/
theorem FilePlace.ne_nil {tree : FileTree} {path : Path} {place : List String}
    (found : FilePlace tree path place)
    : place ≠ [] := by
  obtain ⟨split, proper, led, stands⟩ := found
  exact List.concat_ne_nil _ _

/-- A file's place ends with the last piece of its path, which is a name. -/
theorem FilePlace.getLast? {tree : FileTree} {path : Path} {place : List String}
    (found : FilePlace tree path place)
    : place.getLast? = path.pieces.getLast?
      ∧ ∃ name, path.pieces.getLast? = some name ∧ IsName name := by
  obtain ⟨split, proper, led, stands⟩ := found
  rw [split, List.getLast?_concat, List.getLast?_concat]
  exact ⟨rfl, _, rfl, proper⟩

/-- A path names one place only, since the walk to its directory has one end. -/
theorem FilePlace.unique {tree : FileTree} {path : Path} {place other : List String}
    (found : FilePlace tree path place) (again : FilePlace tree path other)
    : place = other := by
  obtain ⟨split, _, led, _⟩ := found
  obtain ⟨split', _, led', _⟩ := again
  obtain ⟨rfl, last⟩ := List.append_inj' (split.symm.trans split') rfl
  cases last
  cases led.symm.trans led'
  rfl

/-- Where directories are kept, a path names the place that it named before. -/
theorem KeepsDirectories.filePlace {before after : FileTree} (keeps : KeepsDirectories before after)
    {path : Path} {place : List String} (found : FilePlace before path place)
    : FilePlace after path place := by
  obtain ⟨split, proper, led, stands⟩ := found
  refine .intro split proper ?_ (keeps.directories _ stands)
  have start : after.start path = before.start path := by
    unfold FileTree.start
    rw [keeps.here]
  rw [start]
  exact keeps.walk led stands

/-- With the same directories a path names the same place. -/
theorem SameDirectories.filePlace {first second : FileTree} (same : SameDirectories first second)
    {path : Path} {place : List String} (found : FilePlace first path place)
    : FilePlace second path place :=
  same.keepsDirectories.filePlace found

/-- With the same directories paths name the same places. -/
theorem SameDirectories.filePlace_iff {first second : FileTree} (same : SameDirectories first second)
    {path : Path} {place : List String}
    : FilePlace first path place ↔ FilePlace second path place :=
  ⟨same.filePlace, same.symm.filePlace⟩

/-- Every directory on the way to the start of a path is there, for relative paths because the start
stands and for others because they start at the top.
-/
theorem HereStands.start {tree : FileTree} (stands : tree.HereStands) (path : Path)
    : ∀ place, place <+: tree.start path → tree.holdsDirectory place = true := by
  intro place leads
  unfold FileTree.start at leads
  split at leads
  · rw [List.prefix_nil] at leads
    subst leads
    rfl
  · exact stands place leads

/-- A path that ends with a name is not empty. -/
theorem text_ne_empty {path : Path} {name : String} (last : path.pieces.getLast? = some name)
    (proper : IsName name)
    : ¬path.text.isEmpty = true := by
  intro empty
  have text : path = ⟨""⟩ := congrArg Path.mk (String.isEmpty_iff.mp empty)
  subst text
  have same : some "" = some name := last
  exact (isName_iff.mp proper).1 (Option.some.inj same).symm

/-- The path leads to the place of its file if something is there. -/
theorem FilePlace.locate {tree : FileTree} {path : Path} {place : List String}
    (found : FilePlace tree path place) (present : (tree.entry? place).isSome = true)
    : tree.locate path = .ok place := by
  obtain ⟨_, name, last, proper⟩ := found.getLast?
  obtain ⟨split, proper', led, stands⟩ := found
  unfold FileTree.locate
  rw [if_neg (text_ne_empty last proper), split, walk_append, led]
  exact walk_cons_eq_ok_iff.mpr ⟨stands, Or.inr (Or.inr ⟨proper', present, rfl⟩)⟩

/-- The content of the file that a path names can be read. -/
theorem FilePlace.read {tree : FileTree} {path : Path} {place : List String} {content : ByteArray}
    (found : FilePlace tree path place) (file : tree.entry? place = some (.file content))
    : tree.read path = .ok content := by
  unfold FileTree.read
  refine bind_eq_ok_iff.mpr ⟨place, found.locate (Option.isSome_of_eq_some file), ?_⟩
  rw [file]
  rfl

/-- Reading gives the content of the file that the path names. -/
theorem read_eq_ok_iff {tree : FileTree} (stands : tree.HereStands) {path : Path}
    {content : ByteArray}
    : tree.read path = .ok content
      ↔ ∃ place, FilePlace tree path place ∧ tree.entry? place = some (.file content) := by
  constructor
  · intro given
    unfold FileTree.read at given
    obtain ⟨place, located, found⟩ := bind_eq_ok_iff.mp given
    have file : tree.entry? place = some (.file content) := by
      split at found
      next other known =>
        cases found
        exact known
      all_goals cases found
    unfold FileTree.locate at located
    split at located
    next => cases located
    next =>
      obtain ⟨names, name, directory, split, proper, led, high, rfl⟩ :=
        walk_to_file (stands.start path) located (holdsDirectory_of_file file)
      exact ⟨_, .intro split proper led high, file⟩
  · rintro ⟨place, found, file⟩
    exact found.read file

/-- Reading the text of a file is reading its content, as far as this is text. -/
theorem toOption_readText (tree : FileTree) (path : Path)
    : (tree.readText path).toOption = (tree.read path).toOption.bind String.fromUTF8? := by
  unfold readText
  cases tree.read path with
  | error cause => rfl
  | ok content =>
      simp only [bind, Except.bind, Except.toOption, Option.bind]
      cases String.fromUTF8? content <;> rfl

/-- A text that stands in the place of a file is what reading it gives. -/
theorem FilePlace.readText {tree : FileTree} {path : Path} {place : List String} {text : String}
    (found : FilePlace tree path place) (file : tree.entry? place = some (.file text.toUTF8))
    : tree.readText path = .ok text := by
  have decoded : String.fromUTF8? text.toUTF8 = some text := by
    unfold String.fromUTF8?
    exact dif_pos text.isValidUTF8
  refine bind_eq_ok_iff.mpr ⟨text.toUTF8, found.read file, ?_⟩
  rw [decoded]
  rfl

/-- What a path whose last piece is a name would name anew is the file in its place. -/
theorem locateNew_eq_ok_iff {tree : FileTree} {path : Path} {name : String}
    (last : path.pieces.getLast? = some name) (proper : IsName name) {found : Option (List String)}
    : tree.locateNew path = .ok found
      ↔ ∃ place, FilePlace tree path place ∧ found = some place := by
  obtain ⟨names, split⟩ := List.getLast?_eq_some_iff.mp last
  obtain ⟨nonempty, dot, dots⟩ := isName_iff.mp proper
  have kept : path.pieces.filter (· != "") = names.filter (· != "") ++ [name] := by
    rw [split, List.filter_append, List.filter_cons_of_pos (by simpa using nonempty), List.filter_nil]
  have plain : ¬(name == "." || name == "..") = true := by
    simp [dot, dots]
  -- Empty pieces are left out first, which the name is not. So it stays the last piece, and the walk
  -- goes along all that lead up to it.
  unfold locateNew
  rw [if_neg (text_ne_empty last proper), kept]
  simp only [List.getLast?_concat, List.dropLast_concat, bind_eq_ok_iff]
  constructor
  · rintro ⟨directory, led, rest⟩
    cases stands : tree.holdsDirectory directory with
    | false =>
        rw [stands] at rest
        cases rest
    | true =>
        rw [stands, if_neg (by decide), if_neg plain] at rest
        cases rest
        exact ⟨_, .intro split proper ((walk_filter stands).mp led) stands, rfl⟩
  · rintro ⟨place, filePlace, rfl⟩
    obtain ⟨split', _, led, stands⟩ := filePlace
    obtain ⟨rfl, same⟩ := List.append_inj' (split'.symm.trans split) rfl
    cases same
    refine ⟨_, (walk_filter stands).mpr led, ?_⟩
    rw [stands, if_neg (by decide), if_neg plain]
    rfl

/-- A path that names something new has a last name, unless it ends in a slash. -/
theorem exists_name_of_locateNew {tree : FileTree} {path : Path} {place : List String}
    (located : tree.locateNew path = .ok (some place)) (slashless : path.endsInSlash = false)
    : ∃ name, path.pieces.getLast? = some name ∧ IsName name := by
  unfold locateNew at located
  split at located
  next => cases located
  next nonempty =>
    have some_name : path.pieces.getLast? ≠ some "" := by
      rw [ne_eq, getLast?_pieces_eq_empty_iff, slashless]
      simpa using nonempty
    dsimp only at located
    split at located
    next => cases located
    next name last =>
      obtain ⟨directory, _, located⟩ := bind_eq_ok_iff.mp located
      split at located
      next => cases located
      next =>
        split at located
        next => cases located
        next plain =>
          simp only [Bool.or_eq_true, beq_iff_eq, not_or] at plain
          have proper : name ≠ "" := by
            simpa using (List.mem_filter.mp (List.mem_of_getLast? last)).2
          -- The last piece is not empty, so it is the last one that is not empty too.
          cases final : path.pieces.getLast? with
          | none =>
              rw [List.getLast?_eq_none_iff.mp final] at last
              cases last
          | some piece =>
              obtain ⟨front, split⟩ := List.getLast?_eq_some_iff.mp final
              have kept : (piece != "") = true := bne_iff_ne.mpr fun empty =>
                some_name (empty ▸ final)
              rw [split, List.filter_append, List.filter_singleton, kept, cond_true,
                List.getLast?_concat] at last
              cases last
              exact ⟨name, rfl, isName_iff.mpr ⟨proper, plain⟩⟩

/-- Writing puts a file into the place of the file that the path names, unless a directory is there. -/
theorem write_eq_ok_iff {tree : FileTree} {path : Path} {content : ByteArray} {after : FileTree}
    : tree.write path content = .ok after
      ↔ ∃ place, FilePlace tree path place ∧ tree.holdsDirectory place = false
        ∧ after = tree.put place (.file content) := by
  unfold write
  rw [bind_eq_ok_iff]
  constructor
  · rintro ⟨found, located, written⟩
    split at written
    next => cases written
    next place =>
      split at written
      next => cases written
      next free =>
        rw [Bool.or_eq_true, not_or, Bool.not_eq_true, Bool.not_eq_true] at free
        cases written
        obtain ⟨name, last, proper⟩ := exists_name_of_locateNew located free.1
        obtain ⟨_, there, same⟩ := (locateNew_eq_ok_iff last proper).mp located
        cases same
        exact ⟨place, there, free.2, rfl⟩
  · rintro ⟨place, there, free, rfl⟩
    obtain ⟨_, name, last, proper⟩ := there.getLast?
    -- A path that ends with a name does not end in a slash, so that a file is meant.
    have slashless : path.endsInSlash = false := by
      rw [← Bool.not_eq_true]
      intro slash
      have same := last.symm.trans (getLast?_pieces_eq_empty_iff.mpr (Or.inr slash))
      exact (isName_iff.mp proper).1 (Option.some.inj same)
    refine ⟨some place, (locateNew_eq_ok_iff last proper).mpr ⟨place, there, rfl⟩, ?_⟩
    simp only [slashless, free, Bool.or_false, Bool.false_eq_true, if_false]
    rfl

/-- A text that was written is what is read afterwards. -/
theorem readText_of_write {tree after : FileTree} {path : Path} {text : String}
    (written : tree.write path text.toUTF8 = .ok after)
    : after.readText path = .ok text := by
  obtain ⟨place, found, free, rfl⟩ := write_eq_ok_iff.mp written
  have same := (sameDirectories_put found.ne_nil free text.toUTF8).symm
  apply (same.filePlace found).readText
  rw [entry?_put tree found.ne_nil, if_pos rfl]

end Docpress.FileTree
