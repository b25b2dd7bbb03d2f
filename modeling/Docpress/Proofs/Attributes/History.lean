import Docpress.Proofs.Association
import Docpress.Proofs.Attributes
import Mathlib.Data.Finmap

/-!
Attribute lists and how they came about. Whatever was done to a list, it is a map from keys to
values whose keys stand in the order in which they came in. A plain list of pairs, in which only the
first entry of a key is ever looked for, holds the same entries, so that no key gets a second one.
-/

namespace Docpress.Attributes

/-- What was done to make an attribute list. -/
inductive History where
  /-- The pairs are set one after another, and nothing is set before. -/
  | ofList (pairs : List (String × String))
  | set (past : History) (key value : String)
  | setDefault (past : History) (key value : String)
  | merge (past other : History)
  | remove (past : History) (key : String)

/-- The attributes that come of a history. -/
def History.result : History → Attributes
  | ofList pairs => .ofList pairs
  | set past key value => past.result.set key value
  | setDefault past key value => past.result.setDefault key value
  | merge past other => past.result.merge other.result
  | remove past key => (past.result.remove key).2

-----------------------------------------------------------------------------------------
-- Plain lists of entries
-----------------------------------------------------------------------------------------

namespace Entries

/-- Gives the first entry of a key a new value, or adds one at the end. -/
def write (key value : String) : List (String × String) → List (String × String)
  | [] => [(key, value)]
  | (name, old) :: rest =>
    if name = key then (name, value) :: rest else (name, old) :: write key value rest

/-- Adds an entry at the end, unless the key has one. -/
def offer (key value : String) (entries : List (String × String)) : List (String × String) :=
  if entries.any (·.1 == key) then entries else entries ++ [(key, value)]

/-- Writes the pairs one after another. -/
def writeAll (pairs entries : List (String × String)) : List (String × String) :=
  pairs.foldl (fun entries pair => write pair.1 pair.2 entries) entries

/-- Takes the first entry of a key out, and tells its value. -/
def takeOut (key : String) : List (String × String) → Option String × List (String × String)
  | [] => (none, [])
  | (name, value) :: rest =>
    if name = key then (some value, rest)
    else ((takeOut key rest).1, (name, value) :: (takeOut key rest).2)

/-- A key that no entry has is written at the end, by induction on the entries. -/
theorem write_of_absent {key : String} {entries : List (String × String)}
    (absent : key ∉ entries.map Prod.fst) (value : String)
    : write key value entries = entries ++ [(key, value)] := by
  induction entries with
  | nil => rfl
  | cons entry rest ih =>
      obtain ⟨name, old⟩ := entry
      obtain ⟨different, later⟩ := List.ne_and_not_mem_of_not_mem_cons absent
      rw [write, if_neg different.symm, ih later, List.cons_append]

/-- A key that an entry has is written in its place, by induction on the entries. As no key stands twice,
writing the first entry is replacing the value.
-/
theorem write_of_present {key : String} {entries : List (String × String)}
    (distinct : (entries.map Prod.fst).Nodup) (present : key ∈ entries.map Prod.fst)
    (value : String)
    : write key value entries = replaceValue key value entries := by
  induction entries with
  | nil => cases present
  | cons entry rest ih =>
      obtain ⟨name, old⟩ := entry
      obtain ⟨fresh, distinct⟩ := List.nodup_cons.mp distinct
      rw [write, replaceValue_cons]
      by_cases here : name = key
      · rw [if_pos here, if_pos here, replaceValue_of_absent (here ▸ fresh)]
      · have later := (List.mem_cons.mp present).resolve_left (Ne.symm here)
        rw [if_neg here, if_neg here, ih distinct later]

/-- The first entry of a key is the only one, so that without it there is none. -/
theorem takeOut_of_nodup {entries : List (String × String)}
    (distinct : (entries.map Prod.fst).Nodup) (key : String)
    : takeOut key entries = (entries.lookup key, entries.filter (·.1 != key)) := by
  induction entries with
  | nil => rfl
  | cons entry rest ih =>
      obtain ⟨name, value⟩ := entry
      obtain ⟨fresh, distinct⟩ := List.nodup_cons.mp distinct
      rw [takeOut, List.lookup_cons]
      by_cases here : name = key
      · subst here
        have others : rest.filter (·.1 != name) = rest := by
          refine List.filter_eq_self.mpr fun other member => bne_iff_ne.mpr fun same => fresh ?_
          exact List.mem_map.mpr ⟨other, member, same⟩
        simp [others]
      · rw [if_neg here, ih distinct, beq_eq_false_iff_ne.mpr (Ne.symm here)]
        simp [here]

end Entries

open Entries

/-- Setting a key writes it into the plain list. -/
theorem entries_set (attrs : Attributes) (key value : String)
    : (attrs.set key value).entries = write key value attrs.entries := by
  unfold set
  split
  next present =>
    exact (write_of_present attrs.distinct ((contains_iff attrs key).mp present) value).symm
  next absent =>
    exact (write_of_absent (fun member => absent ((contains_iff attrs key).mpr member)) value).symm

/-- Giving a default offers it to the plain list. -/
theorem entries_setDefault (attrs : Attributes) (key value : String)
    : (attrs.setDefault key value).entries = offer key value attrs.entries := by
  unfold setDefault offer
  split
  next present => exact (if_pos present).symm
  next absent => exact (if_neg absent).symm

/-- Setting keys one after another writes them one after another, by induction on the pairs. -/
theorem entries_foldl_set (pairs : List (String × String)) (attrs : Attributes)
    : (pairs.foldl (fun merged pair => merged.set pair.1 pair.2) attrs).entries
      = writeAll pairs attrs.entries := by
  induction pairs generalizing attrs with
  | nil => rfl
  | cons pair rest ih => rw [List.foldl_cons, ih, entries_set]; rfl

/-- A plain list of entries to which the same is done. -/
def History.entries : History → List (String × String)
  | ofList pairs => writeAll pairs []
  | set past key value => write key value past.entries
  | setDefault past key value => offer key value past.entries
  | merge past other => writeAll other.entries past.entries
  | remove past key => (takeOut key past.entries).2

/-- The entries that come of a history are those of the plain list to which the same is done, by
induction on the history.
-/
theorem History.entries_eq (history : History) : history.entries = history.result.entries := by
  induction history with
  | ofList pairs => exact (entries_foldl_set pairs empty).symm
  | set past key value ih => rw [entries, result, entries_set, ih]
  | setDefault past key value ih => rw [entries, result, entries_setDefault, ih]
  | merge past other ih ih' =>
      rw [entries, result, Attributes.merge, entries_foldl_set, ih, ih']
  | remove past key ih =>
      rw [entries, ih, takeOut_of_nodup past.result.distinct]
      rfl

-----------------------------------------------------------------------------------------
-- The map
-----------------------------------------------------------------------------------------

/-- The map from keys to values that comes of a history. -/
def History.map : History → Finmap fun _ : String => String
  | ofList pairs => pairs.foldl (fun known pair => known.insert pair.1 pair.2) ∅
  | set past key value => past.map.insert key value
  | setDefault past key value => if key ∈ past.map then past.map else past.map.insert key value
  | merge past other => other.map ∪ past.map
  | remove past key => past.map.erase key

/-- The attributes have the values of a map. -/
def Holds (attrs : Attributes) (known : Finmap fun _ : String => String) : Prop :=
  ∀ key, attrs.get? key = known.lookup key

variable {attrs other : Attributes} {known known' : Finmap fun _ : String => String}

/-- Setting a key inserts it into the map. -/
theorem Holds.set (holds : attrs.Holds known) (key value : String)
    : (attrs.set key value).Holds (known.insert key value) := by
  intro asked
  rw [get?_set]
  by_cases here : asked = key
  · subst here
    rw [if_pos rfl, Finmap.lookup_insert]
  · rw [if_neg here, Finmap.lookup_insert_of_ne _ here]
    exact holds asked

/-- A key is in the map if it is one of the keys. -/
theorem Holds.mem_iff (holds : attrs.Holds known) (key : String)
    : key ∈ known ↔ key ∈ attrs.keys := by
  rw [← not_iff_not, ← Finmap.lookup_eq_none, ← holds key]
  exact get?_eq_none_iff attrs key

/-- Giving a default inserts the key into the map, unless it is there. -/
theorem Holds.setDefault (holds : attrs.Holds known) (key value : String)
    : (attrs.setDefault key value).Holds
        (if key ∈ known then known else known.insert key value) := by
  by_cases present : key ∈ known
  · have kept : attrs.setDefault key value = attrs :=
      dif_pos ((contains_iff attrs key).mpr ((holds.mem_iff key).mp present))
    rw [if_pos present, kept]
    exact holds
  · have absent : attrs.get? key = none := (holds key).trans (Finmap.lookup_eq_none.mpr present)
    rw [if_neg present, setDefault_eq_set absent]
    exact holds.set key value

/-- Setting keys one after another inserts them one after another, by induction on the pairs. -/
theorem Holds.foldl_set (holds : attrs.Holds known) (pairs : List (String × String))
    : (pairs.foldl (fun merged pair => merged.set pair.1 pair.2) attrs).Holds
        (pairs.foldl (fun known pair => known.insert pair.1 pair.2) known) := by
  induction pairs generalizing attrs known with
  | nil => exact holds
  | cons pair rest ih => exact ih (holds.set pair.1 pair.2)

/-- Merging joins the maps, and the one that is merged goes first. -/
theorem Holds.merge (holds : attrs.Holds known) (others : other.Holds known')
    : (attrs.merge other).Holds (known' ∪ known) := by
  intro key
  rw [get?_merge, others key, holds key]
  by_cases present : key ∈ known'
  · obtain ⟨value, found⟩ := Finmap.mem_iff.mp present
    rw [Finmap.lookup_union_left present, found]
    rfl
  · rw [Finmap.lookup_union_right present, Finmap.lookup_eq_none.mpr present]
    rfl

/-- Removing a key erases it from the map. -/
theorem Holds.remove (holds : attrs.Holds known) (key : String)
    : (attrs.remove key).2.Holds (known.erase key) := by
  intro asked
  by_cases here : asked = key
  · subst here
    rw [Finmap.lookup_erase]
    exact (get?_eq_none_iff _ asked).mpr (not_mem_erase attrs asked)
  · rw [Finmap.lookup_erase_ne here, ← holds asked]
    exact get?_erase_of_ne here attrs

/-- There are as many attributes as keys in the map, since no key stands twice. -/
theorem Holds.size (holds : attrs.Holds known) : attrs.size = known.keys.card := by
  have keys : known.keys = attrs.keys.toFinset := by
    ext key
    rw [Finmap.mem_keys, List.mem_toFinset, holds.mem_iff]
  rw [keys, List.toFinset_card_of_nodup attrs.nodup_keys]
  exact (List.length_map Prod.fst).symm

/-- What comes of a history has the values of its map, by induction on the history. -/
theorem History.holds (history : History) : history.result.Holds history.map := by
  induction history with
  | ofList pairs => exact Holds.foldl_set (fun _ => rfl) pairs
  | set past key value ih => exact ih.set key value
  | setDefault past key value ih => exact ih.setDefault key value
  | merge past other ih ih' => exact ih.merge ih'
  | remove past key ih => exact ih.remove key

-----------------------------------------------------------------------------------------
-- The order of the keys
-----------------------------------------------------------------------------------------

/-- What one step does to the keys. -/
inductive KeyStep where
  | put (key : String)
  | drop (key : String)

/-- The steps of a history, one for each key that is written or taken out. -/
def History.steps : History → List KeyStep
  | ofList pairs => (pairs.map Prod.fst).map .put
  | set past key _ => past.steps ++ [.put key]
  | setDefault past key _ => past.steps ++ [.put key]
  | merge past other => past.steps ++ other.result.keys.map .put
  | remove past key => past.steps ++ [.drop key]

/-- Whether a key is there after some steps: the last one with the key puts it in. -/
def Present (steps : List KeyStep) (key : String) : Prop :=
  ∃ before after, steps = before ++ .put key :: after ∧ KeyStep.drop key ∉ after

/-- The key came in with the step at a time. It was not there before, and has been there since. -/
structure CameIn (steps : List KeyStep) (key : String) (time : Nat) : Prop where
  within : time < steps.length
  absent : ¬Present (steps.take time) key
  stayed : ∀ later, time < later → Present (steps.take later) key

/-- The keys that are there after some steps, in the order in which they came in. -/
structure InOrder (steps : List KeyStep) (keys : List String) : Prop where
  present : ∀ key, key ∈ keys ↔ Present steps key
  cameIn : ∀ key ∈ keys, ∃ time, CameIn steps key time
  ordered
    : keys.Pairwise fun first second =>
        ∃ early late, early < late ∧ CameIn steps first early ∧ CameIn steps second late

variable {steps : List KeyStep} {key : String} {time : Nat} {keys : List String}

/-- Before the first step no key is there. -/
theorem not_present_nil (key : String) : ¬Present [] key := by
  rintro ⟨before, after, same, _⟩
  simp at same

/-- After one more step a key is there if this step puts it in, or if it was there and this step does not
drop it.
-/
theorem present_concat (steps : List KeyStep) (step : KeyStep) (key : String)
    : Present (steps ++ [step]) key ↔ step = .put key ∨ Present steps key ∧ step ≠ .drop key := by
  constructor
  · rintro ⟨before, after, same, stayed⟩
    rcases List.eq_nil_or_concat' after with rfl | ⟨others, last, rfl⟩
    · exact .inl (List.singleton_inj.mp (List.append_inj' same rfl).2)
    · rw [← List.cons_append, ← List.append_assoc] at same
      obtain ⟨rfl, lasts⟩ := List.append_inj' same rfl
      obtain rfl := List.singleton_inj.mp lasts
      simp only [List.mem_append, List.mem_singleton, not_or] at stayed
      exact .inr ⟨⟨before, others, rfl, stayed.1⟩, Ne.symm stayed.2⟩
  · rintro (rfl | ⟨⟨before, after, rfl, stayed⟩, other⟩)
    · exact ⟨steps, [], rfl, List.not_mem_nil⟩
    · refine ⟨before, after ++ [step], by simp, ?_⟩
      simp [stayed, Ne.symm other]

/-- A key that is there stays in its place in time as long as it is there. -/
theorem CameIn.concat (cameIn : CameIn steps key time) {step : KeyStep}
    (still : Present (steps ++ [step]) key)
    : CameIn (steps ++ [step]) key time where
  within := by
    rw [List.length_append]
    exact Nat.lt_add_right _ cameIn.within
  absent := by
    rw [List.take_append_of_le_length (Nat.le_of_lt cameIn.within)]
    exact cameIn.absent
  stayed := by
    intro later after
    rcases Nat.lt_or_ge steps.length later with whole | part
    · rw [List.take_of_length_le (by simpa [Nat.succ_le_iff] using whole)]
      exact still
    · rw [List.take_append_of_le_length part]
      exact cameIn.stayed later after

/-- A key that is put in where it is missing comes in with this step. -/
theorem cameIn_put (absent : ¬Present steps key)
    : CameIn (steps ++ [.put key]) key steps.length where
  within := by simp
  absent := by simpa using absent
  stayed := by
    intro later after
    rw [List.take_of_length_le (by simpa [Nat.succ_le_iff] using after)]
    exact (present_concat steps _ key).mpr (.inl rfl)

/-- Before the first step there are no keys to stand in order. -/
theorem inOrder_nil : InOrder [] [] where
  present key := ⟨nofun, fun present => (not_present_nil key present).elim⟩
  cameIn := nofun
  ordered := .nil

/-- A step keeps the order of the keys that stay. -/
theorem InOrder.ordered_concat (inOrder : InOrder steps keys) {step : KeyStep} {kept : List String}
    (sublist : kept.Sublist keys) (still : ∀ key ∈ kept, Present (steps ++ [step]) key)
    : (∀ key ∈ kept, ∃ time, CameIn (steps ++ [step]) key time)
      ∧ kept.Pairwise fun first second =>
          ∃ early late,
            early < late
            ∧ CameIn (steps ++ [step]) first early
            ∧ CameIn (steps ++ [step]) second late := by
  constructor
  · intro key member
    obtain ⟨time, cameIn⟩ := inOrder.cameIn key (sublist.subset member)
    exact ⟨time, cameIn.concat (still key member)⟩
  · refine (inOrder.ordered.sublist sublist).imp_of_mem ?_
    rintro first second member member' ⟨early, late, lt, cameIn, cameIn'⟩
    exact ⟨early, late, lt, cameIn.concat (still first member),
      cameIn'.concat (still second member')⟩

/-- Putting in a key keeps the order: one that is there stays in its place, and a new one goes to the end
because all the others came in before it.
-/
theorem InOrder.put (inOrder : InOrder steps keys) (key : String)
    : InOrder (steps ++ [.put key]) (if key ∈ keys then keys else keys ++ [key]) := by
  have there (other : String)
      : Present (steps ++ [.put key]) other ↔ other = key ∨ other ∈ keys := by
    rw [present_concat, inOrder.present]
    simp [eq_comm]
  obtain ⟨cameIn, ordered⟩ := inOrder.ordered_concat (List.Sublist.refl keys) fun other member =>
    (there other).mpr (.inr member)
  split
  next present =>
    refine ⟨fun other => ?_, cameIn, ordered⟩
    rw [there]
    exact ⟨.inr, fun known => known.elim (fun same => same ▸ present) id⟩
  next absent =>
    -- The new key came in with the last step, and all others before it.
    have last := cameIn_put fun present => absent ((inOrder.present key).mpr present)
    refine ⟨fun other => ?_, fun other member => ?_, ?_⟩
    · rw [there, List.mem_append, List.mem_singleton, or_comm]
    · rcases List.mem_append.mp member with old | new
      · exact cameIn other old
      · exact ⟨steps.length, List.mem_singleton.mp new ▸ last⟩
    · refine List.pairwise_append.mpr ⟨ordered, List.pairwise_singleton _ _, ?_⟩
      intro first member second new
      obtain ⟨time, entered⟩ := inOrder.cameIn first member
      have still := (there first).mpr (.inr member)
      exact ⟨time, steps.length, entered.within, entered.concat still,
        List.mem_singleton.mp new ▸ last⟩

/-- Dropping a key keeps the order of the others. -/
theorem InOrder.drop (inOrder : InOrder steps keys) (key : String)
    : InOrder (steps ++ [.drop key]) (keys.filter (· != key)) := by
  have there (other : String)
      : Present (steps ++ [.drop key]) other ↔ other ∈ keys.filter (· != key) := by
    rw [present_concat, ← inOrder.present, List.mem_filter, bne_iff_ne]
    simp [@eq_comm _ key]
  obtain ⟨cameIn, ordered⟩ := inOrder.ordered_concat List.filter_sublist fun other member =>
    (there other).mpr member
  exact ⟨fun other => (there other).symm, cameIn, ordered⟩

/-- A default puts its key behind the others, unless it is there. -/
theorem keys_setDefault (attrs : Attributes) (key value : String)
    : (attrs.setDefault key value).keys
      = if key ∈ attrs.keys then attrs.keys else attrs.keys ++ [key] := by
  by_cases present : key ∈ attrs.keys
  · rw [if_pos present, setDefault, dif_pos ((contains_iff attrs key).mpr present)]
  · rw [setDefault_eq_set ((get?_eq_none_iff attrs key).mpr present), keys_set]

/-- Removing a key leaves the other keys in their order. -/
theorem keys_remove (attrs : Attributes) (key : String)
    : (attrs.remove key).2.keys = attrs.keys.filter (· != key) := by
  unfold keys
  rw [List.filter_map]
  rfl

/-- Setting keys one after another keeps the order, by induction on the pairs. -/
theorem InOrder.foldl_set {attrs : Attributes} (inOrder : InOrder steps attrs.keys)
    (pairs : List (String × String))
    : InOrder (steps ++ (pairs.map Prod.fst).map .put)
        (pairs.foldl (fun merged pair => merged.set pair.1 pair.2) attrs).keys := by
  induction pairs generalizing steps attrs with
  | nil => simpa using inOrder
  | cons pair rest ih =>
      have first := inOrder.put pair.1
      rw [← keys_set attrs pair.1 pair.2] at first
      simpa using ih first

/-- The keys stand in the order in which they came in, by induction on the history. -/
theorem History.inOrder (history : History) : InOrder history.steps history.result.keys := by
  induction history with
  | ofList pairs =>
      have none : InOrder [] empty.keys := inOrder_nil
      exact none.foldl_set pairs
  | set past key value ih =>
      rw [steps, result, keys_set]
      exact ih.put key
  | setDefault past key value ih =>
      rw [steps, result, keys_setDefault]
      exact ih.put key
  | merge past other ih _ => exact ih.foldl_set other.result.entries
  | remove past key ih =>
      rw [steps, result, keys_remove]
      exact ih.drop key

-----------------------------------------------------------------------------------------
-- Merging
-----------------------------------------------------------------------------------------

/-- The entries are the keys with their values. -/
theorem entries_eq_map_keys (attrs : Attributes)
    : attrs.entries = attrs.keys.map fun key => (key, (attrs.get? key).getD "") := by
  unfold keys
  rw [List.map_map]
  refine (List.map_id attrs.entries).symm.trans (List.map_congr_left fun entry member => ?_)
  have known : attrs.get? entry.1 = some entry.2 :=
    (Association.lookup_eq_some_iff_mem attrs.distinct).mpr member
  simp [known]

/-- Attributes are known by their keys, in order, and the values of these. -/
theorem eq_of_keys {left right : Attributes} (sameKeys : left.keys = right.keys)
    (sameValues : ∀ key, left.get? key = right.get? key)
    : left = right := by
  apply eq_of_entries
  rw [entries_eq_map_keys left, entries_eq_map_keys right, sameKeys]
  exact List.map_congr_left fun key _ => by rw [sameValues]

/-- Merging is associative, since the keys and the value of each are the same. -/
theorem merge_assoc (first second third : Attributes)
    : (first.merge second).merge third = first.merge (second.merge third) := by
  refine eq_of_keys ?_ fun key => ?_
  · simp only [keys_merge, List.filter_append, List.filter_filter, List.append_assoc]
    congr 2
    refine List.filter_congr fun key _ => ?_
    by_cases listed : key ∈ first.keys <;> simp [listed]
  · simp only [get?_merge, Option.or_assoc]

/-- Merging into empty attributes gives what is merged. -/
theorem empty_merge (attrs : Attributes) : empty.merge attrs = attrs := by
  refine eq_of_keys ?_ fun key => ?_
  · have none : empty.keys = [] := rfl
    simp [keys_merge, none]
  · rw [get?_merge]
    exact Option.or_none

/-- Merging empty attributes changes nothing. -/
theorem merge_empty (attrs : Attributes) : attrs.merge empty = attrs := rfl

/-- Merging the same attributes a second time changes nothing. -/
theorem merge_merge_self (attrs other : Attributes)
    : (attrs.merge other).merge other = attrs.merge other := by
  refine eq_of_keys ?_ fun key => ?_
  · rw [keys_merge, List.filter_eq_nil_iff.mpr, List.append_nil]
    intro key member
    by_cases listed : key ∈ attrs.keys <;> simp [keys_merge, listed, member]
  · simp only [get?_merge, ← Option.or_assoc, Option.or_self]

-----------------------------------------------------------------------------------------
-- Ordered maps
-----------------------------------------------------------------------------------------

/-- Attributes are an ordered map, whatever operations they come of. No key has two entries, even in
a plain list of pairs to which the same is done; the values are those of a finite map, in which a
written value stands for what was there before and a default does not; and the keys stand in the
order in which they came in, where a new value moves none. Merging is associative, with nothing as
its unit, and merging once more the same makes no difference.
-/
theorem result_is_ordered_map (history : History)
    : history.entries = history.result.entries
      ∧ (history.entries.map Prod.fst).Nodup
      ∧ (∀ key,
          history.result.get? key = history.map.lookup key
          ∧ (history.result.contains key = true ↔ key ∈ history.map)
          ∧ (history.result.remove key).1 = history.map.lookup key
          ∧ takeOut key history.entries
            = ((history.result.remove key).1, (history.result.remove key).2.entries))
      ∧ history.result.size = history.map.keys.card
      ∧ InOrder history.steps history.result.keys
      ∧ (∀ key value,
          (history.result.set key value).keys
            = if key ∈ history.result.keys then history.result.keys
              else history.result.keys ++ [key])
      ∧ ∀ second third : History,
          (History.merge (.merge history second) third).result
              = (History.merge history (.merge second third)).result
            ∧ (History.merge history (.ofList [])).result = history.result
            ∧ (History.merge (.ofList []) history).result = history.result
            ∧ (History.merge (.merge history second) second).result
              = (History.merge history second).result := by
  have same := history.entries_eq
  have holds := history.holds
  refine ⟨same, same ▸ history.result.distinct, fun key => ?_, holds.size, history.inOrder,
    keys_set history.result, fun second third => ?_⟩
  · refine ⟨holds key, ?_, holds key, ?_⟩
    · rw [contains_iff, holds.mem_iff]
      rfl
    · rw [same]
      exact takeOut_of_nodup history.result.distinct key
  · exact ⟨merge_assoc _ _ _, merge_empty _, empty_merge _, merge_merge_self _ _⟩

end Docpress.Attributes
