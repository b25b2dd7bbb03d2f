import Docpress.Attributes

/-!
Attribute lists as maps from keys to values.
-/

namespace Docpress.Attributes

/-- A key is contained if an entry has it. -/
theorem contains_iff (attrs : Attributes) (key : String)
    : attrs.contains key = true ↔ key ∈ attrs.entries.map Prod.fst := by
  simp only [contains, List.any_eq_true, beq_iff_eq, List.mem_map]

/-- Replacing a value goes through the entries one by one. -/
theorem replaceValue_cons (key value name old : String) (rest : List (String × String))
    : replaceValue key value ((name, old) :: rest)
      = (name, if name = key then value else old) :: replaceValue key value rest := by
  by_cases same : name = key <;> simp [replaceValue, same]

/-- Where a value is replaced, the new one is found, by induction on the entries. -/
theorem lookup_replaceValue_self {key : String} {entries : List (String × String)}
    (present : key ∈ entries.map Prod.fst) (value : String)
    : (replaceValue key value entries).lookup key = some value := by
  induction entries with
  | nil => cases present
  | cons entry rest ih =>
      obtain ⟨name, old⟩ := entry
      rw [replaceValue_cons, List.lookup_cons]
      by_cases here : key = name
      · simp [here]
      · rw [beq_eq_false_iff_ne.mpr here]
        exact ih ((List.mem_cons.mp present).resolve_left here)

/-- Where a value is replaced, other keys keep theirs, by induction on the entries. -/
theorem lookup_replaceValue_of_ne {key other : String} (different : other ≠ key) (value : String)
    (entries : List (String × String))
    : (replaceValue key value entries).lookup other = entries.lookup other := by
  induction entries with
  | nil => rfl
  | cons entry rest ih =>
      obtain ⟨name, old⟩ := entry
      rw [replaceValue_cons, List.lookup_cons, List.lookup_cons, ih]
      by_cases here : other = name
      · rw [if_neg (here ▸ different)]
      · rw [beq_eq_false_iff_ne.mpr here]

/-- The value that is set is found under its key, and every other key keeps its value. -/
theorem get?_set (attrs : Attributes) (key value other : String)
    : (attrs.set key value).get? other = if other = key then some value else attrs.get? other := by
  by_cases asked : other = key
  · subst asked
    rw [if_pos rfl, set, get?]
    split
    next present => exact lookup_replaceValue_self ((contains_iff attrs other).mp present) value
    next absent =>
      have free : attrs.entries.lookup other = none := by
        rw [List.lookup_eq_none_iff]
        intro entry member
        have different : other ≠ entry.1 := fun same =>
          absent ((contains_iff attrs other).mpr (same ▸ List.mem_map_of_mem member))
        exact bne_iff_ne.mpr different
      simp [List.lookup_append, free]
  · rw [if_neg asked, set, get?, get?]
    split
    next present => exact lookup_replaceValue_of_ne asked value attrs.entries
    next absent => simp [List.lookup_append, List.lookup_cons, beq_eq_false_iff_ne.mpr asked]

/-- The value that is set is found under its key. -/
@[simp]
theorem get?_set_self (attrs : Attributes) (key value : String)
    : (attrs.set key value).get? key = some value := by
  rw [get?_set, if_pos rfl]

/-- A default leaves the values of other keys alone. -/
theorem get?_setDefault_of_ne (attrs : Attributes) {key other : String} (different : other ≠ key)
    (value : String)
    : (attrs.setDefault key value).get? other = attrs.get? other := by
  rw [setDefault, get?, get?]
  split
  · rfl
  · simp [List.lookup_append, List.lookup_cons, beq_eq_false_iff_ne.mpr different]

/-- A key has no value if no entry has it. -/
theorem get?_eq_none_iff (attrs : Attributes) (key : String)
    : attrs.get? key = none ↔ key ∉ attrs.entries.map Prod.fst := by
  rw [get?, List.lookup_eq_none_iff, List.mem_map]
  constructor
  · rintro absent ⟨entry, member, rfl⟩
    exact absurd (absent entry member) (by simp)
  · intro absent entry member
    exact bne_iff_ne.mpr fun same => absent ⟨entry, member, same.symm⟩

/-- Attributes that count as empty are the empty attributes. -/
theorem eq_empty_of_isEmpty {attrs : Attributes} (bare : attrs.isEmpty = true)
    : attrs = empty := by
  obtain ⟨entries, distinct⟩ := attrs
  have none : entries = [] := List.isEmpty_iff.mp bare
  subst none
  rfl

-----------------------------------------------------------------------------------------
-- Attributes without a key
-----------------------------------------------------------------------------------------

/-- Attributes with the same entries are the same. -/
theorem eq_of_entries {left right : Attributes} (same : left.entries = right.entries)
    : left = right := by
  cases left
  cases right
  subst same
  rfl

/-- A new value neither adds a key nor moves one. -/
theorem filter_replaceValue (key value : String) (keep : String → Bool)
    (entries : List (String × String))
    : (replaceValue key value entries).filter (fun entry => keep entry.1)
      = replaceValue key value (entries.filter fun entry => keep entry.1) := by
  have sameKey : (fun entry : String × String => keep entry.1)
        ∘ (fun entry => if entry.1 == key then (entry.1, value) else entry)
      = fun entry => keep entry.1 := by
    funext entry
    simp only [Function.comp]
    split <;> rfl
  rw [replaceValue, List.filter_map, sameKey]
  rfl

/-- Where no entry has the key, there is no value to replace. -/
theorem replaceValue_of_absent {key : String} {entries : List (String × String)}
    (absent : key ∉ entries.map Prod.fst) (value : String)
    : replaceValue key value entries = entries := by
  refine (List.map_congr_left fun entry member => ?_).trans (List.map_id entries)
  refine if_neg fun same => absent ?_
  exact beq_iff_eq.mp same ▸ List.mem_map_of_mem member

/-- No entry has a key that was erased. -/
theorem not_mem_erase (attrs : Attributes) (key : String)
    : key ∉ (attrs.erase key).entries.map Prod.fst := by
  simp [erase]

/-- Erasing a key leaves it open which of the others are contained. -/
theorem contains_erase_of_ne {key other : String} (different : key ≠ other) (attrs : Attributes)
    : (attrs.erase other).contains key = attrs.contains key := by
  rw [Bool.eq_iff_iff, contains_iff, contains_iff]
  simp [erase, different]

/-- Leaving out the entries of one key makes no difference to another, by induction on the entries. -/
theorem lookup_filter_of_ne {key other : String} (different : key ≠ other)
    (entries : List (String × String))
    : (entries.filter (·.1 != other)).lookup key = entries.lookup key := by
  induction entries with
  | nil => rfl
  | cons entry rest ih =>
      obtain ⟨name, value⟩ := entry
      by_cases gone : name = other
      · rw [List.filter_cons_of_neg (by simpa using gone), ih, List.lookup_cons,
          beq_eq_false_iff_ne.mpr (gone ▸ different)]
      · rw [List.filter_cons_of_pos (by simpa using gone), List.lookup_cons, List.lookup_cons, ih]

/-- Erasing a key leaves the values of the others alone. -/
theorem get?_erase_of_ne {key other : String} (different : key ≠ other) (attrs : Attributes)
    : (attrs.erase other).get? key = attrs.get? key :=
  lookup_filter_of_ne different attrs.entries

/-- There is nothing to erase from empty attributes. -/
@[simp]
theorem erase_empty (key : String) : empty.erase key = empty := rfl

/-- A key that is erased may as well not have been set. -/
@[simp]
theorem erase_set_self (attrs : Attributes) (key value : String)
    : (attrs.set key value).erase key = attrs.erase key := by
  apply eq_of_entries
  have absent := not_mem_erase attrs key
  rw [erase] at absent
  rw [set, erase, erase]
  split
  · exact (filter_replaceValue key value (· != key) attrs.entries).trans
      (replaceValue_of_absent absent value)
  · simp [List.filter_append]

/-- Setting one key and erasing another can be done in either order. -/
theorem erase_set_of_ne {key other : String} (different : key ≠ other) (attrs : Attributes)
    (value : String)
    : (attrs.set key value).erase other = (attrs.erase other).set key value := by
  apply eq_of_entries
  rw [set, set]
  simp only [contains_erase_of_ne different]
  split
  · exact filter_replaceValue key value (· != other) attrs.entries
  · simp [erase, List.filter_append, different]

/-- Giving a default for one key and erasing another can be done in either order. -/
theorem erase_setDefault_of_ne {key other : String} (different : key ≠ other) (attrs : Attributes)
    (value : String)
    : (attrs.setDefault key value).erase other = (attrs.erase other).setDefault key value := by
  apply eq_of_entries
  rw [setDefault, setDefault]
  simp only [contains_erase_of_ne different]
  split
  · rfl
  · simp [erase, List.filter_append, different]

/-- A key that is not set yet gets its value at the end, by whichever operation. -/
theorem setDefault_eq_set {attrs : Attributes} {key : String} (absent : attrs.get? key = none)
    (value : String)
    : attrs.setDefault key value = attrs.set key value := by
  have free : attrs.contains key = false := by
    rw [Bool.eq_false_iff]
    exact fun present =>
      (get?_eq_none_iff attrs key).mp absent ((contains_iff attrs key).mp present)
  simp [setDefault, set, free]

-----------------------------------------------------------------------------------------
-- Keys in order, and merging
-----------------------------------------------------------------------------------------

/-- The keys, in the order of the entries. -/
def keys (attrs : Attributes) : List String :=
  attrs.entries.map Prod.fst

/-- No key stands twice, which attributes carry with them. -/
theorem nodup_keys (attrs : Attributes) : attrs.keys.Nodup :=
  attrs.distinct

/-- A key keeps its place, and a new one goes to the end. -/
theorem keys_set (attrs : Attributes) (key value : String)
    : (attrs.set key value).keys
      = if key ∈ attrs.keys then attrs.keys else attrs.keys ++ [key] := by
  have present : attrs.contains key = true ↔ key ∈ attrs.keys := contains_iff attrs key
  unfold set
  split
  next set =>
    rw [if_pos (present.mp set)]
    exact map_fst_replaceValue key value attrs.entries
  next unset =>
    rw [if_neg fun member => unset (present.mpr member)]
    exact List.map_append

/-- The keys that are there stay in their places when one more is set. -/
theorem keys_prefix_set (attrs : Attributes) (key value : String)
    : attrs.keys <+: (attrs.set key value).keys := by
  rw [keys_set]
  split
  · exact List.prefix_rfl
  · exact List.prefix_append _ _

/-- Entries that are set one after another, with distinct keys: the new value of a key is the one in
them, if there is one.
-/
theorem get?_foldl_set {pairs : List (String × String)} (distinct : (pairs.map Prod.fst).Nodup)
    (attrs : Attributes) (key : String)
    : (pairs.foldl (fun merged entry => merged.set entry.1 entry.2) attrs).get? key
      = (pairs.lookup key).or (attrs.get? key) := by
  induction pairs generalizing attrs with
  | nil => rfl
  | cons entry rest ih =>
      obtain ⟨name, value⟩ := entry
      obtain ⟨fresh, others⟩ := List.nodup_cons.mp distinct
      rw [List.foldl_cons, ih others, get?_set, List.lookup_cons]
      by_cases here : key = name
      · subst here
        have absent : rest.lookup key = none :=
          (get?_eq_none_iff ⟨rest, others⟩ key).mpr fresh
        rw [absent, if_pos rfl, beq_self_eq_true]
        rfl
      · rw [if_neg here, beq_eq_false_iff_ne.mpr here]

/-- New keys go behind those that are there, in their own order. -/
theorem keys_foldl_set {pairs : List (String × String)} (distinct : (pairs.map Prod.fst).Nodup)
    (attrs : Attributes)
    : (pairs.foldl (fun merged entry => merged.set entry.1 entry.2) attrs).keys
      = attrs.keys ++ (pairs.map Prod.fst).filter (· ∉ attrs.keys) := by
  induction pairs generalizing attrs with
  | nil => exact (List.append_nil _).symm
  | cons entry rest ih =>
      obtain ⟨name, value⟩ := entry
      obtain ⟨fresh, others⟩ := List.nodup_cons.mp distinct
      rw [List.foldl_cons, ih others, keys_set, List.map_cons]
      by_cases here : name ∈ attrs.keys
      · rw [if_pos here, List.filter_cons_of_neg (by simpa using here)]
      · have later : (rest.map Prod.fst).filter (· ∉ attrs.keys ++ [name])
            = (rest.map Prod.fst).filter (· ∉ attrs.keys) := by
          refine List.filter_congr fun other member => ?_
          have different : other ≠ name := fun same => fresh (same ▸ member)
          simp [different]
        rw [if_neg here, later, List.filter_cons_of_pos (by simpa using here), List.append_assoc,
          List.singleton_append]

/-- Merging takes the values of the right side where it has some. -/
theorem get?_merge (attrs other : Attributes) (key : String)
    : (attrs.merge other).get? key = (other.get? key).or (attrs.get? key) :=
  get?_foldl_set other.distinct attrs key

/-- Merging puts the keys that only the right side has behind those of the left side. -/
theorem keys_merge (attrs other : Attributes)
    : (attrs.merge other).keys = attrs.keys ++ other.keys.filter (· ∉ attrs.keys) :=
  keys_foldl_set other.distinct attrs

end Docpress.Attributes
