/-!
Attribute lists of elements: each key has one value, and keys stand in the order in which they were
first set.
-/

namespace Docpress

/-- An ordered list of attributes without a repeated key. -/
structure Attributes where
  entries : List (String × String)
  distinct : (entries.map Prod.fst).Nodup
  deriving DecidableEq, Repr

namespace Attributes

/-- The list without attributes. -/
def empty : Attributes := ⟨[], List.Pairwise.nil⟩

instance : Inhabited Attributes := ⟨empty⟩

/-- The value of `key`, if it is set. -/
def get? (attrs : Attributes) (key : String) : Option String :=
  attrs.entries.lookup key

/-- Whether `key` is set. -/
def contains (attrs : Attributes) (key : String) : Bool :=
  attrs.entries.any (·.1 == key)

/-- The number of attributes. -/
def size (attrs : Attributes) : Nat :=
  attrs.entries.length

/-- Whether no attribute is set. -/
def isEmpty (attrs : Attributes) : Bool :=
  attrs.entries.isEmpty

/-- Gives the entry of `key` a new value, in its place. -/
def replaceValue (key value : String) (entries : List (String × String)) : List (String × String) :=
  entries.map fun entry => if entry.1 == key then (entry.1, value) else entry

/-- Replacing a value keeps every key in its place. -/
theorem map_fst_replaceValue (key value : String) (entries : List (String × String))
    : (replaceValue key value entries).map Prod.fst = entries.map Prod.fst := by
  simp only [replaceValue, List.map_map]
  refine List.map_congr_left fun entry _ => ?_
  simp only [Function.comp]
  split <;> rfl

/-- Appending a key that is not set yet keeps the keys distinct. -/
theorem nodup_append_of_not_contains {attrs : Attributes} {key : String} (value : String)
    (h : ¬attrs.contains key)
    : ((attrs.entries ++ [(key, value)]).map Prod.fst).Nodup := by
  have hk : key ∉ attrs.entries.map Prod.fst := by
    intro hm
    obtain ⟨entry, he, rfl⟩ := List.mem_map.1 hm
    exact h (List.any_eq_true.2 ⟨entry, he, by simp⟩)
  rw [List.map_append, List.nodup_append]
  refine ⟨attrs.distinct, by simp, ?_⟩
  intro a ha b hb
  simp at hb
  subst hb
  exact fun e => hk (e ▸ ha)

/-- Sets `key`, in its place if it is set already and at the end otherwise. -/
def set (attrs : Attributes) (key value : String) : Attributes :=
  if h : attrs.contains key then
    ⟨replaceValue key value attrs.entries, by
      rw [map_fst_replaceValue]; exact attrs.distinct⟩
  else
    ⟨attrs.entries ++ [(key, value)], nodup_append_of_not_contains value h⟩

/-- Sets `key` at the end, unless it is set already. -/
def setDefault (attrs : Attributes) (key value : String) : Attributes :=
  if h : attrs.contains key then
    attrs
  else
    ⟨attrs.entries ++ [(key, value)], nodup_append_of_not_contains value h⟩

/-- The attributes without `key`. -/
def erase (attrs : Attributes) (key : String) : Attributes :=
  ⟨attrs.entries.filter (·.1 != key), by
    have h : (attrs.entries.filter (·.1 != key)).Sublist attrs.entries := List.filter_sublist
    exact (h.map Prod.fst).nodup attrs.distinct⟩

/-- Takes `key` out, and tells the value that it had. -/
def remove (attrs : Attributes) (key : String) : Option String × Attributes :=
  (attrs.get? key, attrs.erase key)

/-- Sets every entry of `other`, in order, over `attrs`. -/
def merge (attrs other : Attributes) : Attributes :=
  other.entries.foldl (fun merged entry => merged.set entry.1 entry.2) attrs

/-- The attributes that arise when the pairs are set one after another. -/
def ofList (pairs : List (String × String)) : Attributes :=
  pairs.foldl (fun attrs entry => attrs.set entry.1 entry.2) empty

end Attributes

end Docpress
