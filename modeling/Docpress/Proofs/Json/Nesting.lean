import Docpress.Proofs.Fallible
import Docpress.Proofs.Json.Records

/-!
Values that are read as they are, with their arrays and objects within a limit of nesting. Whatever
is read with a limit keeps to it.
-/

namespace Docpress.Json

open Source Fallible

-----------------------------------------------------------------------------------------
-- How deep a value nests
-----------------------------------------------------------------------------------------

mutual

/-- How many arrays and objects stand within each other at most. -/
def nesting : Json → Nat
  | .array items => nestingOfItems items + 1
  | .object members => nestingOfMembers members + 1
  | .null => 0
  | .bool _ => 0
  | .int _ => 0
  | .double _ => 0
  | .string _ => 0

/-- The nesting of the deepest item. -/
def nestingOfItems : List Json → Nat
  | [] => 0
  | item :: rest => max (nesting item) (nestingOfItems rest)

/-- The nesting of the deepest value of a member. -/
def nestingOfMembers : List (String × Json) → Nat
  | [] => 0
  | (_, value) :: rest => max (nesting value) (nestingOfMembers rest)

end

/-- Items stay within some levels if each of them does. -/
theorem nestingOfItems_le_iff {items : List Json} {levels : Nat}
    : nestingOfItems items ≤ levels ↔ ∀ item ∈ items, item.nesting ≤ levels := by
  induction items with
  | nil => simp [nestingOfItems]
  | cons item rest ih => rw [nestingOfItems, Nat.max_le, ih, List.forall_mem_cons]

/-- Members stay within some levels if the value of each does. -/
theorem nestingOfMembers_le_iff {members : List (String × Json)} {levels : Nat}
    : nestingOfMembers members ≤ levels ↔ ∀ member ∈ members, member.2.nesting ≤ levels := by
  induction members with
  | nil => simp [nestingOfMembers]
  | cons member rest ih => rw [nestingOfMembers, Nat.max_le, ih, List.forall_mem_cons]

-----------------------------------------------------------------------------------------
-- Items and members
-----------------------------------------------------------------------------------------

variable {levels : Nat}

/-- Array items are read one by one, and all of them have to be readable. -/
theorem itemsToJson?_eq_mapM (sources : List Source)
    : itemsToJson? levels sources = sources.mapM (toJson? levels) := by
  induction sources with
  | nil => rfl
  | cons source rest ih => rw [itemsToJson?, List.mapM_cons, ih]

/-- What holds of two lists item by item leads to what follows from it for the items on the right. -/
theorem forall₂_imp_of_mem {α β : Type} {known next : α → β → Prop} {lefts : List α}
    {rights : List β}
    (pairs : List.Forall₂ known lefts rights)
    (follows : ∀ right ∈ rights, ∀ left, known left right → next left right)
    : List.Forall₂ next lefts rights := by
  induction pairs with
  | nil => exact .nil
  | cons here _ ih =>
      obtain ⟨first, others⟩ := List.forall_mem_cons.mp follows
      exact .cons (first _ here) (ih others)

/-- A key that is not there yet is put behind the members that are. -/
theorem putMember_of_new {members : List (String × Json)} {key : String} {value : Json}
    (fresh : key ∉ members.map Prod.fst)
    : putMember members key value = members ++ [(key, value)] := by
  refine if_neg fun known => fresh ?_
  obtain ⟨member, listed, here⟩ := List.any_eq_true.mp known
  exact List.mem_map.mpr ⟨member, listed, beq_iff_eq.mp here⟩

/-- What is found after a member is put was there before, or is this member. -/
theorem mem_of_mem_putMember {members : List (String × Json)} {key : String} {value : Json}
    {member : String × Json} (listed : member ∈ putMember members key value)
    : member ∈ members ∨ member = (key, value) := by
  unfold putMember at listed
  split at listed
  · obtain ⟨old, known, rfl⟩ := List.mem_map.mp listed
    split
    · exact .inr rfl
    · exact .inl known
  · simpa using listed

/-- Members with distinct keys are read one after the other, by induction on those still to come. -/
theorem membersToJson?_of_forall₂ {sources : List (Option String × Source)}
    {done members : List (String × Json)}
    (pairs
      : List.Forall₂
          (fun source member => source.1 = some member.1 ∧ source.2.toJson? levels = some member.2)
          sources members)
    (distinct : ((done ++ members).map Prod.fst).Nodup)
    : membersToJson? levels done sources = some (done ++ members) := by
  induction pairs generalizing done with
  | nil => rw [membersToJson?, List.append_nil]
  | @cons source member sources members first _ ih =>
      obtain ⟨key, source⟩ := source
      obtain ⟨named, known⟩ := first
      have fresh : member.1 ∉ done.map Prod.fst := by
        rw [List.map_append, List.nodup_append] at distinct
        exact fun used => distinct.2.2 _ used _ List.mem_cons_self rfl
      have steps : done ++ member :: members = (done ++ [member]) ++ members := by simp
      rw [steps] at distinct ⊢
      dsimp only at named known
      rw [membersToJson?, named, known]
      change membersToJson? levels (putMember done member.1 member.2) sources = _
      rw [putMember_of_new fresh, ih distinct]

-----------------------------------------------------------------------------------------
-- Values within a limit
-----------------------------------------------------------------------------------------

/-- Values without floating-point numbers: null, truth values, integers of 64 bits, signed or
unsigned, texts, arrays, and objects in which no key stands twice.
-/
inductive Plain : Json → Prop where
  | null
    : Plain .null
  | bool (value : Bool)
    : Plain (.bool value)
  | int {value : Int} (low : -2 ^ 63 ≤ value) (high : value < 2 ^ 64)
    : Plain (.int value)
  | string (text : String)
    : Plain (.string text)
  | array {items : List Json} (plain : ∀ item ∈ items, Plain item)
    : Plain (.array items)
  | object {members : List (String × Json)} (distinct : (members.map Prod.fst).Nodup)
    (plain : ∀ member ∈ members, Plain member.2)
    : Plain (.object members)

/-- The numbers of a plain value are read back, by induction on the value: its only numbers are integers
in range.
-/
theorem Plain.numbersReadBack {value : Json} (plain : value.Plain) : NumbersReadBack value := by
  induction plain with
  | null => exact numbersReadBack_null
  | bool value => exact numbersReadBack_bool value
  | int low high => exact numbersReadBack_int low high
  | string text => exact numbersReadBack_string text
  | array _ ih => exact numbersReadBack_array ih
  | object _ _ ih => exact numbersReadBack_object ih

/-- A plain value is read as it is if it nests within the limit, by induction on the value. -/
theorem Plain.toJson?_of_means {value : Json} (plain : value.Plain) {source : Source}
    (means : Means source value) (fits : value.nesting ≤ levels)
    : source.toJson? levels = some value := by
  induction plain generalizing source levels with
  | null =>
      cases means.writtenAs
      rfl
  | bool value =>
      cases means.writtenAs
      rfl
  | int _ _ =>
      cases means.writtenAs with
      | int known => exact known
  | string text =>
      cases means.writtenAs
      rfl
  | @array items _ ih =>
      cases means.writtenAs with
      | @array sources _ isItems =>
          -- One of the levels is that of the array itself.
          rw [nesting] at fits
          obtain ⟨levels, rfl⟩ := Nat.exists_eq_add_one_of_ne_zero (by omega : levels ≠ 0)
          have below := nestingOfItems_le_iff.mp (Nat.le_of_succ_le_succ fits)
          have read : sources.mapM (Source.toJson? levels) = some items :=
            mapM_eq_some_iff.mpr <|
              forall₂_imp_of_mem isItems fun item listed _ means =>
                ih item listed means (below item listed)
          rw [Source.toJson?, itemsToJson?_eq_mapM, read]
          rfl
  | @object members distinct _ ih =>
      cases means.writtenAs with
      | @object sources _ isMembers =>
          rw [nesting] at fits
          obtain ⟨levels, rfl⟩ := Nat.exists_eq_add_one_of_ne_zero (by omega : levels ≠ 0)
          have below := nestingOfMembers_le_iff.mp (Nat.le_of_succ_le_succ fits)
          have read
              : List.Forall₂
                  (fun source member =>
                    source.1 = some member.1 ∧ source.2.toJson? levels = some member.2)
                  sources members :=
            forall₂_imp_of_mem isMembers fun member listed _ known =>
              ⟨known.1, ih member listed known.2 (below member listed)⟩
          have inOrder : membersToJson? levels [] sources = some members :=
            membersToJson?_of_forall₂ read distinct
          rw [Source.toJson?, inOrder]
          rfl

mutual

/-- What is read with a limit of nesting keeps to the limit. -/
theorem nesting_le_of_toJson? {levels : Nat} {value : Json}
    : (source : Source) → source.toJson? levels = some value → value.nesting ≤ levels
  | .null, known | .bool _, known => by
      cases known
      exact Nat.zero_le levels
  | .number _, known => by
      have isNumber := isNumber_of_value? known
      cases value with
      | int | double => exact Nat.zero_le levels
      | null | bool | string | array | object => cases isNumber
  | .string _, known => by
      obtain ⟨text, _, rfl⟩ := Option.map_eq_some_iff.mp known
      exact Nat.zero_le levels
  | .array sources, known => by
      -- An array takes one of the levels, and cannot be read without one.
      cases levels with
      | zero => cases known
      | succ levels =>
          obtain ⟨items, read, rfl⟩ := Option.map_eq_some_iff.mp known
          exact Nat.succ_le_succ (nestingOfItems_le_of_itemsToJson? sources read)
  | .object sources, known => by
      cases levels with
      | zero => cases known
      | succ levels =>
          obtain ⟨members, read, rfl⟩ := Option.map_eq_some_iff.mp known
          refine Nat.succ_le_succ (nestingOfMembers_le_of_membersToJson? sources ?_ read)
          exact Nat.zero_le levels

/-- What is read from array items is no deeper than the levels that were left for them. -/
theorem nestingOfItems_le_of_itemsToJson? {levels : Nat} {items : List Json}
    : (sources : List Source) → itemsToJson? levels sources = some items
      → nestingOfItems items ≤ levels
  | [], known => by
      cases known
      exact Nat.zero_le levels
  | source :: rest, known => by
      simp only [itemsToJson?, Option.bind_eq_bind, Option.bind_eq_some_iff, Option.pure_def,
        Option.some.injEq] at known
      obtain ⟨item, first, others, later, rfl⟩ := known
      exact Nat.max_le.mpr
        ⟨nesting_le_of_toJson? source first, nestingOfItems_le_of_itemsToJson? rest later⟩

/-- What is read from object members is no deeper than the levels that were left for them, nor is what
was put in place of an earlier member with the same key.
-/
theorem nestingOfMembers_le_of_membersToJson? {levels : Nat} {done members : List (String × Json)}
    : (sources : List (Option String × Source)) → nestingOfMembers done ≤ levels
      → membersToJson? levels done sources = some members
      → nestingOfMembers members ≤ levels
  | [], fits, known => by
      cases known
      exact fits
  | (key, source) :: rest, fits, known => by
      simp only [membersToJson?, Option.bind_eq_bind, Option.bind_eq_some_iff] at known
      obtain ⟨name, _, value, first, later⟩ := known
      refine nestingOfMembers_le_of_membersToJson? rest ?_ later
      refine nestingOfMembers_le_iff.mpr fun member listed => ?_
      rcases mem_of_mem_putMember listed with old | rfl
      · exact nestingOfMembers_le_iff.mp fits member old
      · exact nesting_le_of_toJson? source first

end

end Docpress.Json
