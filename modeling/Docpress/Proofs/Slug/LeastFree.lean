import Docpress.Proofs.Association
import Docpress.Proofs.Slug.Tracker

/-!
Which identifiers a tracker gives out with suffixes. The number that it keeps for a slug only saves work:
every number below it is taken, so going on from it finds what a search from 1 would find.
-/

namespace Docpress.SlugTracker

/-- The identifier of a heading after the `earlier` ones: its slug if no earlier heading has that, and
otherwise the slug with the least number, from 1 on, that no earlier heading has.
-/
inductive LeastFree (earlier : List String) (slug : String) : String → Prop where
  | plain (free : slug ∉ earlier)
    : LeastFree earlier slug slug
  | numbered (number : Nat) (repeated : slug ∈ earlier) (positive : 1 ≤ number)
    (free : slug ++ "-" ++ toString number ∉ earlier)
    (least
      : ∀ smaller, 1 ≤ smaller → smaller < number
        → slug ++ "-" ++ toString smaller ∈ earlier)
    : LeastFree earlier slug (slug ++ "-" ++ toString number)

/-- Where the slug itself is free, it is the least free identifier. -/
theorem LeastFree.eq_slug {earlier : List String} {slug id : String}
    (least : LeastFree earlier slug id) (free : slug ∉ earlier)
    : id = slug := by
  cases least with
  | plain => rfl
  | numbered number repeated => exact absurd repeated free

/-- All numbers for a slug below the one to try next are taken. -/
structure Passed (issued : List String) (slug : String) (next : Nat) : Prop where
  positive : 1 ≤ next
  taken : ∀ number, 1 ≤ number → number < next → candidate slug number ∈ issued

/-- Before any search all numbers are still to be tried. -/
theorem passed_one (issued : List String) (slug : String) : Passed issued slug 1 where
  positive := Nat.le_refl 1
  taken _ low high := absurd high (Nat.not_lt.mpr low)

/-- Numbers that are taken stay taken when more identifiers are issued. -/
theorem Passed.append {issued : List String} {slug : String} {next : Nat}
    (passed : Passed issued slug next) (later : List String)
    : Passed (issued ++ later) slug next where
  positive := passed.positive
  taken number low high := List.mem_append_left later (passed.taken number low high)

/-- Once a number is issued itself, the next one is to be tried. -/
theorem Passed.issue {issued : List String} {slug : String} {number : Nat}
    (passed : Passed issued slug number)
    : Passed (issued ++ [candidate slug number]) slug (number + 1) where
  positive := Nat.le_add_left 1 number
  taken smaller low high := by
    rcases Nat.lt_succ_iff_lt_or_eq.mp high with below | last
    · exact List.mem_append_left _ (passed.taken smaller low below)
    · exact last ▸ List.mem_append_right _ (List.mem_singleton.mpr rfl)

/-- A tracker that has given out the `issued` identifiers, and no others. -/
structure Tracks (tracker : SlugTracker) (issued : List String) : Prop where
  suffixed : tracker.policy = .suffixed
  uses : ∀ id, tracker.uses id = true ↔ id ∈ issued
  passed : ∀ {slug next}, tracker.seen.lookup slug = some next → Passed issued slug next

/-- A tracker that has seen nothing keeps track of no identifiers. -/
theorem tracks_nothing : Tracks { policy := .suffixed } [] where
  suffixed := rfl
  uses id := by simp [uses]
  passed known := by cases known

/-- Recording an identifier updates the number from which its next search starts. -/
theorem record_eq_update (tracker : SlugTracker) (id : String) (next : Nat)
    : (tracker.record id next).seen = Association.update tracker.seen id next := by
  unfold record uses Association.update
  split <;> rfl

/-- What is known for an identifier after another one is recorded. -/
theorem lookup_record (tracker : SlugTracker) (id : String) (next : Nat) (other : String)
    : (tracker.record id next).seen.lookup other
      = if other == id then some next else tracker.seen.lookup other := by
  rw [record_eq_update, Association.lookup_update]

/-- The search passes over no free number. -/
theorem firstFree_least (tracker : SlugTracker) (base : String) (start : Nat)
    : start ≤ tracker.firstFree base start
      ∧ ∀ number, start ≤ number → number < tracker.firstFree base start
        → tracker.uses (candidate base number) = true := by
  unfold firstFree
  cases found : (List.range' start (tracker.seen.length + 1)).find?
      fun number => !tracker.uses (candidate base number) with
  | none =>
      rw [Option.getD_none]
      exact ⟨Nat.le_refl start, fun number low high => absurd high (Nat.not_lt.mpr low)⟩
  | some number =>
      obtain ⟨_, listed, below⟩ := List.find?_range'_eq_some.mp found
      rw [Option.getD_some]
      refine ⟨(List.mem_range'_1.mp listed).1, fun smaller low high => ?_⟩
      simpa only [Bool.not_not] using below smaller low high

/-- An identifier that the tracker does not use was not issued. -/
theorem Tracks.not_mem {tracker : SlugTracker} {issued : List String}
    (tracks : Tracks tracker issued) {id : String} (free : tracker.uses id = false)
    : id ∉ issued := by
  intro used
  rw [← tracks.uses, free] at used
  cases used

/-- A slug for which the tracker counts was issued. -/
theorem Tracks.mem_of_lookup {tracker : SlugTracker} {issued : List String}
    (tracks : Tracks tracker issued) {slug : String} {next : Nat}
    (known : tracker.seen.lookup slug = some next)
    : slug ∈ issued := by
  rw [← tracks.uses]
  refine Bool.of_not_eq_false fun unused => ?_
  rw [(lookup_eq_none_iff tracker _).mpr unused] at known
  cases known

/-- The search finds the least free number: those below its start are taken by the invariant, and
those that it comes by are in use.
-/
theorem Tracks.passed_firstFree {tracker : SlugTracker} {issued : List String}
    (tracks : Tracks tracker issued) {slug : String} {next : Nat}
    (known : tracker.seen.lookup slug = some next)
    : Passed issued slug (tracker.firstFree slug next) := by
  obtain ⟨onward, tried⟩ := firstFree_least tracker slug next
  have passed := tracks.passed known
  refine ⟨Nat.le_trans passed.positive onward, fun number low high => ?_⟩
  rcases Nat.lt_or_ge number next with early | late
  · exact passed.taken number low early
  · exact (tracks.uses _).mp (tried number late high)

/-- One step gives out the least free identifier, and the tracker keeps track of it. -/
theorem Tracks.assign {tracker : SlugTracker} {issued : List String}
    (tracks : Tracks tracker issued) (text : String)
    : LeastFree issued (slugify text) (tracker.assign text).1
      ∧ Tracks (tracker.assign text).2 (issued ++ [(tracker.assign text).1]) := by
  obtain ⟨_, policy, usesAfter⟩ := assign_suffixed tracks.suffixed text
  have uses : ∀ id, (tracker.assign text).2.uses id = true
      ↔ id ∈ issued ++ [(tracker.assign text).1] := by
    intro id
    rw [usesAfter, tracks.uses, List.mem_append, List.mem_singleton, or_comm]
  cases known : tracker.seen.lookup (slugify text) with
  | none =>
      have step := assign_of_new tracks.suffixed known
      rw [step] at uses policy ⊢
      -- A new slug starts to count at one, and the counts of the others go on.
      refine ⟨.plain (tracks.not_mem ((lookup_eq_none_iff tracker _).mp known)), policy, uses,
        fun found => ?_⟩
      rw [lookup_record] at found
      split at found
      · cases found
        exact passed_one _ _
      · exact (tracks.passed found).append _
  | some next =>
      have free := tracks.not_mem (firstFree_free tracker (slugify text) next)
      have passed := tracks.passed_firstFree known
      have step := assign_of_known tracks.suffixed known
      -- From here on it only counts that the number is the first free one.
      generalize tracker.firstFree (slugify text) next = number at free passed step
      have repeated := tracks.mem_of_lookup known
      rw [step] at uses policy ⊢
      refine ⟨.numbered number repeated passed.positive free passed.taken, policy, uses,
        fun found => ?_⟩
      rw [lookup_record, lookup_record] at found
      split at found
      · cases found
        exact passed_one _ _
      · split at found
        next same =>
          cases found
          rw [beq_iff_eq.mp same]
          exact passed.issue
        next => exact (tracks.passed found).append _

/-- A run gives out least free identifiers, by induction along the texts with the identifiers given
out so far as the invariant.
-/
theorem Tracks.assignAll {tracker : SlugTracker} {issued : List String}
    (tracks : Tracks tracker issued) (texts : List String) {index : Nat} {text id : String}
    (asked : texts[index]? = some text) (given : (tracker.assignAll texts)[index]? = some id)
    : LeastFree (issued ++ (tracker.assignAll texts).take index) (slugify text) id := by
  induction texts generalizing tracker issued index with
  | nil => cases asked
  | cons head rest ih =>
      obtain ⟨least, after⟩ := tracks.assign head
      rw [SlugTracker.assignAll] at given ⊢
      cases index with
      | zero =>
          cases asked
          cases given
          rw [List.take_zero, List.append_nil]
          exact least
      | succ index =>
          have later := ih after asked given
          rwa [List.append_assoc, List.singleton_append] at later

/-- Without suffixes each text gets its slug, by induction on the texts. -/
theorem assignAll_verbatim {tracker : SlugTracker} (verbatim : tracker.policy = .verbatim)
    (texts : List String)
    : tracker.assignAll texts = texts.map slugify := by
  induction texts with
  | nil => rfl
  | cons text rest ih =>
      have step : tracker.assign text = (slugify text, tracker) := by
        simp only [SlugTracker.assign, verbatim]
      simp only [SlugTracker.assignAll, step, ih, List.map_cons]

/-- Suffixes are for repeated slugs only, by induction along the texts. -/
theorem Tracks.assignAll_of_nodup {tracker : SlugTracker} {issued : List String}
    (tracks : Tracks tracker issued) {texts : List String}
    (distinct : (issued ++ texts.map slugify).Nodup)
    : tracker.assignAll texts = texts.map slugify := by
  induction texts generalizing tracker issued with
  | nil => rfl
  | cons text rest ih =>
      obtain ⟨least, after⟩ := tracks.assign text
      have free : slugify text ∉ issued := fun used =>
        (List.nodup_append.mp distinct).2.2 _ used _ List.mem_cons_self rfl
      have same := least.eq_slug free
      rw [same] at after
      rw [List.map_cons, List.append_cons] at distinct
      exact congrArg₂ List.cons same (ih after distinct)

/-- Under suffixes every heading of a document gets the least free identifier for its slug. So all
identifiers are different, and where no slug is repeated they are the slugs themselves.
-/
theorem suffixed_ids_are_least_free (texts : List String)
    : (assignAll { policy := .suffixed } texts).length = texts.length
      ∧ (∀ index text id,
          texts[index]? = some text
          → (assignAll { policy := .suffixed } texts)[index]? = some id
          → LeastFree ((assignAll { policy := .suffixed } texts).take index) (slugify text) id)
      ∧ (assignAll { policy := .suffixed } texts).Nodup
      ∧ ((texts.map slugify).Nodup
        → assignAll { policy := .suffixed } texts = assignAll { policy := .verbatim } texts) := by
  refine ⟨length_assignAll _ _, fun index text id asked given => ?_,
    (assignAll_suffixed rfl texts).2, fun distinct => ?_⟩
  · exact tracks_nothing.assignAll texts asked given
  · rw [@assignAll_verbatim { policy := .verbatim } rfl]
    exact tracks_nothing.assignAll_of_nodup distinct

/-- A number that a heading has of its own is passed over, and so is one that was given out. -/
theorem suffixed_ids_of_steps
    : assignAll { policy := .suffixed } ["Step 1", "Step", "Step", "Step 1", "Step"]
        = ["step-1", "step", "step-2", "step-1-1", "step-3"]
      ∧ LeastFree ["step-1", "step", "step-2", "step-1-1"] (slugify "Step") "step-3"
      ∧ assignAll { policy := .suffixed } ["Step 1", "Step"] = ["step-1", "step"] := by
  have ids : assignAll { policy := .suffixed } ["Step 1", "Step", "Step", "Step 1", "Step"]
      = ["step-1", "step", "step-2", "step-1-1", "step-3"] := by
    decide +kernel
  obtain ⟨_, least, _⟩ :=
    suffixed_ids_are_least_free ["Step 1", "Step", "Step", "Step 1", "Step"]
  obtain ⟨_, _, _, verbatim⟩ := suffixed_ids_are_least_free ["Step 1", "Step"]
  rw [ids] at least
  refine ⟨ids, least 4 "Step" "step-3" rfl rfl, (verbatim (by decide +kernel)).trans ?_⟩
  decide +kernel

end Docpress.SlugTracker
