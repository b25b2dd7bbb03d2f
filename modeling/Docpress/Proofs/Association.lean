/-!
Lists of keys with values that are updated in place. A key that is there keeps its place, and a new
one goes to the end.
-/

namespace Docpress.Association

variable {κ α : Type} [BEq κ] [LawfulBEq κ]

/-- The entries with a value for a key, in place of the old one if there is one. -/
def update (entries : List (κ × α)) (key : κ) (value : α) : List (κ × α) :=
  if entries.any (·.1 == key) then
    entries.map fun entry => if entry.1 == key then (key, value) else entry
  else
    entries ++ [(key, value)]

/-- A key has a value if an entry has the key, by induction on the entries. -/
theorem lookup_isSome (entries : List (κ × α)) (key : κ)
    : (entries.lookup key).isSome = entries.any (·.1 == key) := by
  induction entries with
  | nil => rfl
  | cons entry rest ih =>
      obtain ⟨name, value⟩ := entry
      rw [List.lookup_cons, List.any_cons, ← ih, BEq.comm]
      cases name == key <;> rfl

/-- What is known for a key after a value is replaced, by induction on the entries. -/
theorem lookup_replace (entries : List (κ × α)) (key : κ) (value : α) (other : κ)
    : (entries.map fun entry => if entry.1 == key then (key, value) else entry).lookup other
      = if other == key then (entries.lookup key).map fun _ => value else entries.lookup other := by
  induction entries with
  | nil => cases other == key <;> rfl
  | cons entry rest ih =>
      obtain ⟨name, old⟩ := entry
      rw [List.map_cons, List.lookup_cons, List.lookup_cons]
      by_cases here : name = key
      · subst here
        rw [if_pos (beq_self_eq_true name), List.lookup_cons, ih, beq_self_eq_true]
        cases other == name <;> rfl
      · rw [if_neg (by simpa using here), List.lookup_cons, ih, BEq.comm (a := key),
          beq_eq_false_iff_ne.mpr here]
        by_cases asked : other = name
        · subst asked
          rw [beq_self_eq_true, beq_eq_false_iff_ne.mpr here]
          rfl
        · rw [beq_eq_false_iff_ne.mpr asked]

/-- After an update the key has the new value and every other key the value that it had. A key that has
an entry is replaced there, and one that has none comes at the end.
-/
theorem lookup_update (entries : List (κ × α)) (key : κ) (value : α) (other : κ)
    : (update entries key value).lookup other
      = if other == key then some value else entries.lookup other := by
  have known := lookup_isSome entries key
  unfold update
  split
  next used =>
    rw [used] at known
    obtain ⟨old, found⟩ := Option.isSome_iff_exists.mp known
    rw [lookup_replace, found]
    rfl
  next unused =>
    have absent : entries.lookup key = none := by
      rwa [eq_false_of_ne_true unused, Option.isSome_eq_false_iff,
        Option.isNone_iff_eq_none] at known
    rw [List.lookup_append, List.lookup_cons, List.lookup_nil]
    by_cases asked : other = key
    · subst asked
      rw [absent, beq_self_eq_true]
      rfl
    · rw [beq_eq_false_iff_ne.mpr asked]
      cases entries.lookup other <;> rfl

/-- An update keeps the keys distinct, since it adds an entry only for a key that has none. -/
theorem nodup_keys_update {entries : List (κ × α)} (distinct : (entries.map Prod.fst).Nodup)
    (key : κ) (value : α)
    : ((update entries key value).map Prod.fst).Nodup := by
  unfold update
  split
  next used =>
    have keys
        : (entries.map fun entry => if entry.1 == key then (key, value) else entry).map Prod.fst
          = entries.map Prod.fst := by
      rw [List.map_map]
      refine List.map_congr_left fun entry _ => ?_
      by_cases here : entry.1 = key
      · simp [here]
      · simp [here]
    rw [keys]
    exact distinct
  next unused =>
    rw [List.map_append, List.nodup_append]
    refine ⟨distinct, by simp, fun name listed other same => ?_⟩
    obtain ⟨entry, member, rfl⟩ := List.mem_map.mp listed
    have differs : entry.1 ≠ key := by
      intro here
      exact unused (List.any_eq_true.mpr ⟨entry, member, beq_iff_eq.mpr here⟩)
    rw [List.mem_singleton.mp same]
    exact differs

/-- With distinct keys, what is known for a key is what an entry holds, by induction on the entries. -/
theorem lookup_eq_some_iff_mem {entries : List (κ × α)} (distinct : (entries.map Prod.fst).Nodup)
    {key : κ} {value : α}
    : entries.lookup key = some value ↔ (key, value) ∈ entries := by
  induction entries with
  | nil => simp
  | cons entry rest ih =>
      obtain ⟨name, old⟩ := entry
      obtain ⟨fresh, distinct⟩ := List.nodup_cons.mp distinct
      rw [List.lookup_cons, List.mem_cons, Prod.mk.injEq]
      by_cases here : key = name
      · subst here
        have elsewhere : (key, value) ∉ rest := fun member =>
          fresh (List.mem_map.mpr ⟨(key, value), member, rfl⟩)
        simp [elsewhere, eq_comm]
      · simp [beq_eq_false_iff_ne.mpr here, here, ih distinct]

/-- With distinct keys the order of the entries does not matter. -/
theorem lookup_perm {left right : List (κ × α)} (same : left.Perm right)
    (distinct : (right.map Prod.fst).Nodup) (key : κ)
    : left.lookup key = right.lookup key := by
  have keys : (left.map Prod.fst).Nodup := (same.map Prod.fst).nodup_iff.mpr distinct
  refine Option.ext fun value => ?_
  rw [lookup_eq_some_iff_mem keys, lookup_eq_some_iff_mem distinct, same.mem_iff]

end Docpress.Association
