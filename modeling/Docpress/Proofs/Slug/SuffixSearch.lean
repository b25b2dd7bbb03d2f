import Docpress.Proofs.Slug.LeastFree

/-!
The search for a free identifier. Nothing in it bounds how many candidates are tested. It ends because
distinct numbers give distinct candidates, and no more of them are taken than there are identifiers in
use.
-/

namespace Docpress.SlugTracker

/-- The search for a free candidate from a number on: one candidate is tested after another until one is
free. When it ends it has tested the listed candidates, the last of which is that of the number that it
comes to. A search that goes on for ever comes to nothing, since only finitely many steps lead to an end.
-/
inductive Search (tracker : SlugTracker) (base : String)
    : (number : Nat) → (tested : List String) → (last : Nat) → Prop where
  | stop {number : Nat} (free : tracker.uses (candidate base number) = false)
    : Search tracker base number [candidate base number] number
  | goOn {number : Nat} {tested : List String} {last : Nat}
    (taken : tracker.uses (candidate base number) = true)
    (later : Search tracker base (number + 1) tested last)
    : Search tracker base number (candidate base number :: tested) last

/-- The tracker after the headings of these texts. -/
def after (tracker : SlugTracker) (texts : List String) : SlugTracker :=
  texts.foldl (fun tracker text => (tracker.assign text).2) tracker

/-- A candidate that is tested to identify the next heading. -/
def Tries (tracker : SlugTracker) (text id : String) : Prop :=
  ∃ next tested last,
    tracker.seen.lookup (slugify text) = some next
    ∧ tracker.Search (slugify text) next tested last
    ∧ id ∈ tested

-----------------------------------------------------------------------------------------
-- What a search tests
-----------------------------------------------------------------------------------------

section

variable {tracker : SlugTracker} {base : String} {number last : Nat} {tested : List String}

/-- A search ends no earlier than it starts, and tests every number in between. -/
theorem Search.bounds (search : tracker.Search base number tested last)
    : number ≤ last ∧ number + tested.length = last + 1 := by
  induction search with
  | stop free => exact ⟨Nat.le_refl _, rfl⟩
  | goOn taken later ih =>
      rw [List.length_cons]
      omega

/-- A search tests the candidates of consecutive numbers. -/
theorem Search.tested_eq (search : tracker.Search base number tested last)
    : tested = (List.range' number tested.length).map (candidate base) := by
  induction search with
  | stop free => rfl
  | goOn taken later ih => rw [List.length_cons, List.range'_succ, List.map_cons, ← ih]

/-- The candidate with which a search ends is free, by induction on the search. -/
theorem Search.free (search : tracker.Search base number tested last)
    : tracker.uses (candidate base last) = false := by
  induction search with
  | stop free => exact free
  | goOn taken later ih => exact ih

/-- A search goes on only past what is in use. -/
theorem Search.taken (search : tracker.Search base number tested last)
    : ∀ id ∈ tested.dropLast, tracker.uses id = true := by
  induction search with
  | stop free => simp
  | @goOn number tested last taken later ih =>
      have more : tested ≠ [] := by
        cases later <;> exact List.cons_ne_nil _ _
      rw [List.dropLast_cons_of_ne_nil more]
      exact List.forall_mem_cons.mpr ⟨taken, ih⟩

/-- A search tests no candidate twice, since candidates with different numbers differ. -/
theorem Search.nodup (search : tracker.Search base number tested last) : tested.Nodup := by
  rw [search.tested_eq]
  exact List.Nodup.map (candidate_injective base) List.nodup_range'

/-- What a search tests are candidates with numbers from its start to its end. -/
theorem Search.exists_number (search : tracker.Search base number tested last) {id : String}
    (member : id ∈ tested)
    : ∃ tried, number ≤ tried ∧ tried ≤ last ∧ id = candidate base tried := by
  rw [search.tested_eq] at member
  obtain ⟨tried, listed, rfl⟩ := List.mem_map.mp member
  obtain ⟨low, high⟩ := List.mem_range'_1.mp listed
  rw [search.bounds.2] at high
  exact ⟨tried, low, Nat.le_of_lt_succ high, rfl⟩

/-- All candidates but the last are distinct identifiers in use, so there are not more of them. -/
theorem Search.length_le (search : tracker.Search base number tested last)
    : tested.length ≤ tracker.seen.length + 1 := by
  have included : tested.dropLast ⊆ tracker.seen.map Prod.fst := fun id member =>
    (uses_iff tracker id).mp (search.taken id member)
  have distinct : tested.dropLast.Nodup := search.nodup.sublist (List.dropLast_sublist tested)
  have bound := distinct.length_le_of_subset included
  simp only [List.length_dropLast, List.length_map] at bound
  omega

/-- A search has one end only. -/
theorem Search.unique (search : tracker.Search base number tested last) {tested' : List String}
    {last' : Nat} (other : tracker.Search base number tested' last')
    : tested' = tested ∧ last' = last := by
  induction search generalizing tested' with
  | stop free =>
      cases other with
      | stop => exact ⟨rfl, rfl⟩
      | goOn taken later => exact absurd (free.symm.trans taken) Bool.false_ne_true
  | goOn taken later ih =>
      cases other with
      | stop free => exact absurd (free.symm.trans taken) Bool.false_ne_true
      | goOn _ later' =>
          obtain ⟨rfl, rfl⟩ := ih later'
          exact ⟨rfl, rfl⟩

/-- A search comes to the first free number, by induction on how far that is. -/
theorem exists_search (onward : number ≤ last)
    (taken
      : ∀ tried, number ≤ tried → tried < last → tracker.uses (candidate base tried) = true)
    (free : tracker.uses (candidate base last) = false)
    : ∃ tested, tracker.Search base number tested last := by
  induction onward using Nat.decreasingInduction with
  | self => exact ⟨_, .stop free⟩
  | of_succ number onward ih =>
      obtain ⟨tested, later⟩ := ih fun tried low high => taken tried (Nat.le_of_succ_le low) high
      exact ⟨_, .goOn (taken number (Nat.le_refl number) onward) later⟩

end

-----------------------------------------------------------------------------------------
-- The number to try next only grows
-----------------------------------------------------------------------------------------

section

variable {tracker : SlugTracker} {slug text : String} {next : Nat}

/-- What a number is known for is in use, so no search ends at it. -/
theorem ne_candidate_firstFree (known : tracker.seen.lookup slug = some next) (base : String)
    (start : Nat)
    : slug ≠ candidate base (tracker.firstFree base start) := by
  intro same
  have free := firstFree_free tracker base start
  rw [← same, ← lookup_eq_none_iff, known] at free
  cases free

/-- The search for the next identifier comes to the one that is given out, and leaves the number behind
it to be tried next.
-/
theorem exists_search_assign (suffixed : tracker.policy = .suffixed)
    (known : tracker.seen.lookup (slugify text) = some next)
    : ∃ tested last,
        tracker.Search (slugify text) next tested last
        ∧ (tracker.assign text).1 = candidate (slugify text) last
        ∧ (tracker.assign text).2.seen.lookup (slugify text) = some (last + 1) := by
  obtain ⟨onward, taken⟩ := firstFree_least tracker (slugify text) next
  obtain ⟨tested, search⟩ := exists_search onward taken (firstFree_free tracker _ next)
  refine ⟨tested, _, search, by rw [assign_of_known suffixed known], ?_⟩
  simp [assign_of_known suffixed known, lookup_record, ne_candidate_firstFree known]

/-- The number to try next for a slug never goes back, whichever heading comes next. -/
theorem exists_lookup_assign (known : tracker.seen.lookup slug = some next) (text : String)
    : ∃ later, (tracker.assign text).2.seen.lookup slug = some later ∧ next ≤ later := by
  cases policy : tracker.policy with
  | verbatim => exact ⟨next, by simpa only [assign, policy] using known, Nat.le_refl next⟩
  | suffixed =>
      by_cases own : slug = slugify text
      · subst own
        obtain ⟨tested, last, search, _, later⟩ := exists_search_assign policy known
        obtain ⟨onward, _⟩ := search.bounds
        exact ⟨last + 1, later, Nat.le_succ_of_le onward⟩
      · refine ⟨next, ?_, Nat.le_refl next⟩
        cases found : tracker.seen.lookup (slugify text) with
        | none => simp [assign_of_new policy found, lookup_record, own, known]
        | some start =>
            simp [assign_of_known policy found, lookup_record, own, known,
              ne_candidate_firstFree known]

/-- The same along a run, by induction on its headings. -/
theorem exists_lookup_after (known : tracker.seen.lookup slug = some next) (texts : List String)
    : ∃ later, (tracker.after texts).seen.lookup slug = some later ∧ next ≤ later := by
  induction texts generalizing tracker next with
  | nil => exact ⟨next, known, Nat.le_refl next⟩
  | cons text rest ih =>
      obtain ⟨now, step, grown⟩ := exists_lookup_assign known text
      obtain ⟨later, run, more⟩ := ih step
      exact ⟨later, run, Nat.le_trans grown more⟩

end

-----------------------------------------------------------------------------------------
-- The trackers that assignments lead to
-----------------------------------------------------------------------------------------

/-- Texts that follow others are seen with what is known after these. -/
theorem after_append (tracker : SlugTracker) (earlier later : List String)
    : tracker.after (earlier ++ later) = (tracker.after earlier).after later :=
  List.foldl_append

/-- What recording keeps is kept along a run, by induction on its headings. -/
theorem after_of_record {good : SlugTracker → Prop}
    (keeps : ∀ tracker id next, good tracker → good (tracker.record id next))
    {tracker : SlugTracker} (here : good tracker) (texts : List String)
    : good (tracker.after texts) := by
  induction texts generalizing tracker with
  | nil => exact here
  | cons text rest ih =>
      have step : good (tracker.assign text).2 := by
        cases policy : tracker.policy with
        | verbatim => simpa only [assign, policy] using here
        | suffixed =>
            cases known : tracker.seen.lookup (slugify text) with
            | none =>
                rw [assign_of_new policy known]
                exact keeps _ _ _ here
            | some next =>
                rw [assign_of_known policy known]
                exact keeps _ _ _ (keeps _ _ _ here)
      exact ih step

/-- The policy of a tracker never changes. -/
theorem policy_after (tracker : SlugTracker) (texts : List String)
    : (tracker.after texts).policy = tracker.policy := by
  have keeps (other : SlugTracker) (id : String) (next : Nat)
      (same : other.policy = tracker.policy)
      : (other.record id next).policy = tracker.policy :=
    (policy_record other id next).trans same
  exact after_of_record keeps rfl texts

/-- An identifier in use is kept once only, with the number to try next for it. -/
theorem nodup_after (policy : HeadingIds) (texts : List String)
    : ((after { policy := policy } texts).seen.map Prod.fst).Nodup := by
  have keeps (tracker : SlugTracker) (id : String) (next : Nat)
      (distinct : (tracker.seen.map Prod.fst).Nodup)
      : ((tracker.record id next).seen.map Prod.fst).Nodup := by
    rw [record_eq_update]
    exact Association.nodup_keys_update distinct id next
  refine after_of_record keeps ?_ texts
  exact List.nodup_nil

/-- Without suffixes there is nothing to keep. -/
theorem after_verbatim {tracker : SlugTracker} (verbatim : tracker.policy = .verbatim)
    (texts : List String)
    : tracker.after texts = tracker := by
  induction texts with
  | nil => rfl
  | cons text rest ih =>
      have step : (tracker.assign text).2 = tracker := by
        simp only [assign, verbatim]
      exact (congrArg (after · rest) step).trans ih

/-- No candidate is tested for a slug a second time: a later search starts behind the earlier ones. -/
theorem not_tries_of_search {tracker : SlugTracker} {text other : String} {between : List String}
    {next last : Nat} {tested : List String} (suffixed : tracker.policy = .suffixed)
    (same : slugify other = slugify text)
    (known : (tracker.after (other :: between)).seen.lookup (slugify text) = some next)
    (search : (tracker.after (other :: between)).Search (slugify text) next tested last)
    : ∀ id ∈ tested, ¬tracker.Tries other id := by
  rintro id member ⟨start, earlier, stop, found, sooner, tried⟩
  obtain ⟨_, _, found', _, step⟩ := exists_search_assign suffixed found
  obtain ⟨rfl, rfl⟩ := sooner.unique found'
  obtain ⟨later, run, onward⟩ := exists_lookup_after step between
  rw [same] at run
  cases Option.some.inj (run.symm.trans known)
  obtain ⟨number, low, _, rfl⟩ := search.exists_number member
  obtain ⟨number', _, high, again⟩ := sooner.exists_number tried
  rw [same] at again
  have equal : number = number' := candidate_injective _ again
  omega

/-- With any headings before, the search for a free candidate ends: it tests one candidate more at most
than there are identifiers in use, and the identifier that is given out is the free one that it comes to.
All candidates that are tested for a slug are different, in this search and in those before it.
-/
theorem suffix_search_ends (policy : HeadingIds) (earlier : List String) (text : String)
    : ((after { policy := policy } earlier).seen.map Prod.fst).Nodup
      ∧ ∀ next, (after { policy := policy } earlier).seen.lookup (slugify text) = some next
        → ∃ tested last,
            (after { policy := policy } earlier).Search (slugify text) next tested last
            ∧ (after { policy := policy } earlier).uses (candidate (slugify text) last) = false
            ∧ ((after { policy := policy } earlier).assign text).1 = candidate (slugify text) last
            ∧ tested.length ≤ (after { policy := policy } earlier).seen.length + 1
            ∧ tested.Nodup
            ∧ ∀ before other between,
                earlier = before ++ other :: between
                → slugify other = slugify text
                → ∀ id ∈ tested, ¬(after { policy := policy } before).Tries other id := by
  refine ⟨nodup_after policy earlier, fun next known => ?_⟩
  cases policy with
  | verbatim =>
      rw [after_verbatim rfl] at known
      cases known
  | suffixed =>
      obtain ⟨tested, last, search, given, _⟩ :=
        exists_search_assign (policy_after _ earlier) known
      refine ⟨tested, last, search, search.free, given, search.length_le, search.nodup, ?_⟩
      intro before other between split same
      rw [split, after_append] at known search
      exact not_tries_of_search (policy_after _ before) same known search

/-- Headings that have numbers of their own take up the first candidates for a later one. -/
def takenNumbers : List String :=
  ["Step 1", "Step 2", "Step"]

/-- Two headings have taken the first two candidates, so that the search goes on to the third. -/
theorem suffix_search_of_takenNumbers
    : (after { policy := .suffixed } takenNumbers).seen.lookup (slugify "Step") = some 1
      ∧ ((after { policy := .suffixed } takenNumbers).assign "Step").1 = "step-3"
      ∧ ∃ tested last,
          (after { policy := .suffixed } takenNumbers).Search (slugify "Step") 1 tested last
          ∧ tested = ["step-1", "step-2", "step-3"]
          ∧ tested.length ≤ (after { policy := .suffixed } takenNumbers).seen.length + 1 := by
  have known : (after { policy := .suffixed } takenNumbers).seen.lookup (slugify "Step")
      = some 1 := by
    decide +kernel
  have given : ((after { policy := .suffixed } takenNumbers).assign "Step").1 = "step-3" := by
    decide +kernel
  obtain ⟨_, ends⟩ := suffix_search_ends .suffixed takenNumbers "Step"
  obtain ⟨tested, last, search, _, _, few, _⟩ := ends 1 known
  have built : (after { policy := .suffixed } takenNumbers).Search (slugify "Step") 1
      [candidate (slugify "Step") 1, candidate (slugify "Step") 2, candidate (slugify "Step") 3]
      3 :=
    .goOn (by decide +kernel) (.goOn (by decide +kernel) (.stop (by decide +kernel)))
  obtain ⟨same, _⟩ := built.unique search
  refine ⟨known, given, tested, last, search, ?_, few⟩
  rw [same]
  decide +kernel

end Docpress.SlugTracker
