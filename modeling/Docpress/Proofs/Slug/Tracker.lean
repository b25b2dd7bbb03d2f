import Docpress.Proofs.Text.Decimal
import Docpress.Slug
import Mathlib.Data.List.Nodup
import Mathlib.Data.List.Range

/-!
Identifiers that a tracker gives out with suffixes. The search for a free number always ends at one,
so no identifier is given out twice.
-/

namespace Docpress.SlugTracker

/-- Candidates with different numbers differ, since their decimal digits do. -/
theorem candidate_injective (base : String) : Function.Injective (candidate base) :=
  Text.append_toString_nat_injective (base ++ "-")

/-- An identifier is used if it has been seen. -/
theorem uses_iff (tracker : SlugTracker) (id : String)
    : tracker.uses id = true ↔ id ∈ tracker.seen.map Prod.fst := by
  simp only [uses, List.any_eq_true, beq_iff_eq, List.mem_map]

/-- An identifier is in use exactly if a number to try next is known for it. -/
theorem lookup_eq_none_iff (tracker : SlugTracker) (id : String)
    : tracker.seen.lookup id = none ↔ tracker.uses id = false := by
  rw [List.lookup_eq_none_iff, uses, List.any_eq_false]
  constructor
  · intro h entry member same
    exact absurd (h entry member) (by rw [beq_iff_eq.mp same]; simp)
  · intro h entry member
    have other := h entry member
    simp only [beq_iff_eq] at other
    simpa only [bne_iff_ne, ne_eq] using fun same => other (Eq.symm same)

/-- Recording an identifier puts it in use and leaves all others as they are. -/
theorem uses_record (tracker : SlugTracker) (id : String) (next : Nat) (other : String)
    : (tracker.record id next).uses other = true ↔ other = id ∨ tracker.uses other = true := by
  cases known : tracker.uses id with
  | true =>
      have keys : (tracker.record id next).seen.map Prod.fst = tracker.seen.map Prod.fst := by
        simp only [record, known, if_true, List.map_map]
        refine List.map_congr_left fun entry _ => ?_
        by_cases same : entry.1 = id
        · simp only [Function.comp, same, beq_self_eq_true, if_true]
        · simp only [Function.comp, beq_iff_eq, same, if_false]
      rw [uses_iff, keys, ← uses_iff]
      constructor
      · exact Or.inr
      · rintro (same | used)
        · exact same ▸ known
        · exact used
  | false =>
      rw [uses_iff, uses_iff]
      simp only [record, known, Bool.false_eq_true, if_false, List.map_append, List.map_cons,
        List.map_nil, List.mem_append, List.mem_singleton]
      exact Or.comm

/-- The search ends at a free number: more distinct candidates are tried than are in use. -/
theorem firstFree_free (tracker : SlugTracker) (base : String) (start : Nat)
    : tracker.uses (candidate base (tracker.firstFree base start)) = false := by
  unfold firstFree
  cases found : (List.range' start (tracker.seen.length + 1)).find?
      fun number => !tracker.uses (candidate base number) with
  | some number => simpa only [Option.getD_some, Bool.not_eq_true'] using List.find?_some found
  | none =>
      have taken := List.find?_eq_none.mp found
      have included : (List.range' start (tracker.seen.length + 1)).map (candidate base)
          ⊆ tracker.seen.map Prod.fst := by
        intro id member
        obtain ⟨number, tried, rfl⟩ := List.mem_map.mp member
        have used := taken number tried
        simp only [Bool.not_eq_true', Bool.not_eq_false] at used
        exact (uses_iff tracker _).mp used
      have unique := (List.nodup_range' (s := start) (n := tracker.seen.length + 1)).map
        (candidate_injective base)
      have bound := unique.length_le_of_subset included
      simp only [List.length_map, List.length_range'] at bound
      omega

/-- Recording an identifier keeps the policy. -/
theorem policy_record (tracker : SlugTracker) (id : String) (next : Nat)
    : (tracker.record id next).policy = tracker.policy := by
  unfold record
  split <;> rfl

section

variable {tracker : SlugTracker} {text : String}

/-- A slug that is new is taken as it is, and its numbers start with one. -/
theorem assign_of_new (suffixed : tracker.policy = .suffixed)
    (new : tracker.seen.lookup (slugify text) = none)
    : tracker.assign text = (slugify text, tracker.record (slugify text) 1) := by
  simp only [assign, suffixed, new]

/-- A slug that is known gets the first number that is free, and both identifiers are recorded. -/
theorem assign_of_known (suffixed : tracker.policy = .suffixed) {next : Nat}
    (known : tracker.seen.lookup (slugify text) = some next)
    : tracker.assign text
      = (candidate (slugify text) (tracker.firstFree (slugify text) next),
          (tracker.record (slugify text) (tracker.firstFree (slugify text) next + 1)).record
            (candidate (slugify text) (tracker.firstFree (slugify text) next)) 1) := by
  simp only [assign, suffixed, known]

end

/-- With suffixes the next identifier is free before it is given out, and only it becomes used. -/
theorem assign_suffixed {tracker : SlugTracker} (suffixed : tracker.policy = .suffixed)
    (text : String)
    : tracker.uses (tracker.assign text).1 = false
      ∧ (tracker.assign text).2.policy = .suffixed
      ∧ ∀ other, (tracker.assign text).2.uses other = true
          ↔ other = (tracker.assign text).1 ∨ tracker.uses other = true := by
  cases known : tracker.seen.lookup (slugify text) with
  | none =>
      simp only [assign_of_new suffixed known, policy_record, suffixed, true_and]
      exact ⟨(lookup_eq_none_iff tracker _).mp known, uses_record tracker _ _⟩
  | some next =>
      simp only [assign_of_known suffixed known, policy_record, suffixed, true_and]
      refine ⟨firstFree_free tracker _ _, fun other => ?_⟩
      rw [uses_record, uses_record]
      have used : tracker.uses (slugify text) = true := by
        cases free : tracker.uses (slugify text) with
        | true => rfl
        | false => simp [(lookup_eq_none_iff tracker _).mpr free] at known
      refine or_congr_right ⟨?_, Or.inr⟩
      rintro (same | used)
      · exact same ▸ used
      · exact used

/-- The identifiers of a sequence of headings are new and distinct, by induction along the sequence
with the used identifiers as the invariant.
-/
theorem assignAll_suffixed {tracker : SlugTracker} (suffixed : tracker.policy = .suffixed)
    (texts : List String)
    : (∀ id ∈ tracker.assignAll texts, tracker.uses id = false)
      ∧ (tracker.assignAll texts).Nodup := by
  induction texts generalizing tracker with
  | nil => simp [assignAll]
  | cons text rest ih =>
      obtain ⟨free, policy, uses⟩ := assign_suffixed suffixed text
      obtain ⟨later, unique⟩ := ih policy
      simp only [assignAll]
      constructor
      · intro id member
        rcases List.mem_cons.mp member with same | member
        · exact same ▸ free
        · cases used : tracker.uses id with
          | false => rfl
          | true => exact absurd ((uses id).mpr (Or.inr used)) (by simp [later id member])
      · refine List.nodup_cons.mpr ⟨fun member => ?_, unique⟩
        exact absurd ((uses _).mpr (Or.inl rfl)) (by simp [later _ member])

/-- Each text gets an identifier, by induction on the texts. -/
theorem length_assignAll (tracker : SlugTracker) (texts : List String)
    : (tracker.assignAll texts).length = texts.length := by
  induction texts generalizing tracker with
  | nil => rfl
  | cons text rest ih => simp only [assignAll, List.length_cons, ih]

end Docpress.SlugTracker
