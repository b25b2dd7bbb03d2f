import Docpress.Json.Settings
import Docpress.Proofs.Association
import Docpress.Proofs.Json.Indented
import Docpress.Proofs.Json.Numbers
import Docpress.Proofs.Json.Reading
import Mathlib.Algebra.Group.Int.Defs
import Mathlib.Algebra.Group.Nat.Defs
import Mathlib.Data.List.Forall2

/-!
Records written in JSON. A reader of single values is told by the JSON values that it takes; a record
is then read from an object that gives its fields once at most, in any order and between other
members.
-/

namespace Docpress.Json

open Source

/-- What is read means a value. -/
abbrev Means (source : Source) (value : Json) : Prop :=
  source.meaning? Numeral.anyValue? = some value

/-- The text is JSON and its value is the given one, with numbers of any size. -/
def IsTextOf (text : String) (value : Json) : Prop :=
  Denotes Numeral.anyValue? text.toList value

/-- What is read as a member means a member. -/
def MemberMeans (source : Option String × Source) (member : String × Json) : Prop :=
  source.1 = some member.1 ∧ Means source.2 member.2

-----------------------------------------------------------------------------------------
-- What is read for each kind of value
-----------------------------------------------------------------------------------------

/-- Items that have meanings are sources of these meanings, one for one. -/
theorem itemMeanings?_eq_some {sources : List Source} {items : List Json}
    (known : itemMeanings? Numeral.anyValue? sources = some items)
    : List.Forall₂ Means sources items := by
  induction sources generalizing items with
  | nil =>
      cases known
      exact .nil
  | cons source rest ih =>
      simp only [itemMeanings?, Option.bind_eq_bind, Option.bind_eq_some_iff, Option.pure_def,
        Option.some.injEq] at known
      obtain ⟨item, first, others, later, rfl⟩ := known
      exact .cons first (ih later)

/-- Members that have meanings are sources of these meanings, one for one and with the same keys. -/
theorem memberMeanings?_eq_some {sources : List (Option String × Source)}
    {members : List (String × Json)}
    (known : memberMeanings? Numeral.anyValue? sources = some members)
    : List.Forall₂ MemberMeans sources members := by
  induction sources generalizing members with
  | nil =>
      cases known
      exact .nil
  | cons source rest ih =>
      obtain ⟨key, source⟩ := source
      simp only [memberMeanings?, Option.bind_eq_bind, Option.bind_eq_some_iff, Option.pure_def,
        Option.some.injEq] at known
      obtain ⟨name, named, value, first, others, later, rfl⟩ := known
      exact .cons ⟨named, first⟩ (ih later)

/-- How a value has to be written to be read as it is. -/
inductive WrittenAs : Json → Source → Prop where
  | null
    : WrittenAs .null .null
  | bool (value : Bool)
    : WrittenAs (.bool value) (.bool value)
  | int {value : Int} {numeral : Numeral} (known : numeral.value? = some (.int value))
    : WrittenAs (.int value) (.number numeral)
  | double (value : Double) (numeral : Numeral)
    : WrittenAs (.double value) (.number numeral)
  | string (text : String)
    : WrittenAs (.string text) (.string (some text))
  | array {sources : List Source} {items : List Json} (isItems : List.Forall₂ Means sources items)
    : WrittenAs (.array items) (.array sources)
  | object {sources : List (Option String × Source)} {members : List (String × Json)}
    (isMembers : List.Forall₂ MemberMeans sources members)
    : WrittenAs (.object members) (.object sources)

/-- What means a value is written as this value has to be, by cases on what is written. A number can mean
nothing but a number.
-/
theorem Means.writtenAs {source : Source} {value : Json} (means : Means source value)
    : WrittenAs value source := by
  unfold Means at means
  cases source with
  | null =>
      cases means
      exact .null
  | bool value =>
      cases means
      exact .bool value
  | number numeral =>
      have isNumber := isNumber_of_anyValue? means
      cases value with
      | int value => exact .int (value?_of_anyValue? means)
      | double value => exact .double value numeral
      | null | bool | string | array | object => cases isNumber
  | string text =>
      obtain ⟨text, rfl, rfl⟩ := Option.map_eq_some_iff.mp means
      exact .string text
  | array sources =>
      obtain ⟨items, known, rfl⟩ := Option.map_eq_some_iff.mp means
      exact .array (itemMeanings?_eq_some known)
  | object sources =>
      obtain ⟨members, known, rfl⟩ := Option.map_eq_some_iff.mp means
      exact .object (memberMeanings?_eq_some known)

/-- The source of the first member, and those of the others. -/
theorem exists_source_of_cons {sources : List (Option String × Source)} {key : String}
    {value : Json} {rest : List (String × Json)}
    (pairs : List.Forall₂ MemberMeans sources ((key, value) :: rest))
    : ∃ source others,
        sources = (some key, source) :: others
        ∧ Means source value
        ∧ List.Forall₂ MemberMeans others rest := by
  obtain ⟨⟨name, source⟩, others, ⟨named, means⟩, later, rfl⟩ :=
    List.forall₂_cons_right_iff.mp pairs
  cases named
  exact ⟨source, others, rfl, means, later⟩

/-- A text is read as something that means what the text denotes. -/
theorem IsTextOf.exists_source {text : String} {value : Json} (isText : IsTextOf text value)
    : ∃ source, ofText? text = some source ∧ Means source value :=
  Option.bind_eq_some_iff.mp (read?_eq_some isText)

-----------------------------------------------------------------------------------------
-- Written values
-----------------------------------------------------------------------------------------

/-- All numbers in a value are read back from their texts. -/
def NumbersReadBack (value : Json) : Prop :=
  ∀ part ∈ value.preorder, ReadsBack Numeral.anyValue? part

/-- The compact text of a value is a text of it, as far as its numbers are read back. -/
theorem NumbersReadBack.isTextOf_compact {value : Json} (numbers : NumbersReadBack value)
    : IsTextOf value.compact value :=
  (written_compact value numbers).denotes

/-- The indented text of a value is a text of it, as far as its numbers are read back. -/
theorem NumbersReadBack.isTextOf_pretty {value : Json} (numbers : NumbersReadBack value)
    : IsTextOf value.pretty value :=
  (written_prettyAt 0 value numbers).denotes

/-- There is no number in null. -/
theorem numbersReadBack_null : NumbersReadBack .null := by
  intro part member
  rw [List.mem_singleton.mp member]
  trivial

/-- There is no number in a truth value. -/
theorem numbersReadBack_bool (value : Bool) : NumbersReadBack (.bool value) := by
  intro part member
  rw [List.mem_singleton.mp member]
  trivial

/-- There is no number in a string. -/
theorem numbersReadBack_string (text : String) : NumbersReadBack (.string text) := by
  intro part member
  rw [List.mem_singleton.mp member]
  trivial

/-- There is no number in an optional string, which is null or a string. -/
theorem numbersReadBack_ofOption (text : Option String) : NumbersReadBack (.ofOption text) := by
  cases text with
  | none => exact numbersReadBack_null
  | some text => exact numbersReadBack_string text

/-- An integer is read back if it fits into 64 bits, with a sign or without one. -/
theorem numbersReadBack_int {value : Int} (low : -2 ^ 63 ≤ value) (high : value < 2 ^ 64)
    : NumbersReadBack (.int value) := by
  intro part member
  rw [List.mem_singleton.mp member]
  exact readsBack_int (by simp only [maxNegative]; omega) (by simp only [maxSignificand]; omega)

/-- The numbers of an array are read back if those of its items are. -/
theorem numbersReadBack_array {items : List Json} (below : ∀ item ∈ items, NumbersReadBack item)
    : NumbersReadBack (.array items) := by
  intro part member
  rcases List.mem_cons.mp member with rfl | inner
  · trivial
  · obtain ⟨item, listed, inner⟩ := mem_preorderItems.mp inner
    exact below item listed part inner

/-- The numbers of an object are read back if those of its members' values are. -/
theorem numbersReadBack_object {members : List (String × Json)}
    (below : ∀ member ∈ members, NumbersReadBack member.2)
    : NumbersReadBack (.object members) := by
  intro part member
  rcases List.mem_cons.mp member with rfl | inner
  · trivial
  · obtain ⟨member, listed, inner⟩ := mem_preorderMembers.mp inner
    exact below member listed part inner

-----------------------------------------------------------------------------------------
-- Single values
-----------------------------------------------------------------------------------------

variable {α : Type}

/-- A reader takes the values of a kind, each for what it stands for. -/
def Takes (read : Source → Option α) (kind : Json → α → Prop) : Prop :=
  ∀ {source value result}, Means source value → kind value result → read source = some result

/-- A truth value. -/
inductive IsBool : Json → Bool → Prop where
  | intro (value : Bool)
    : IsBool (.bool value) value

/-- A text. -/
inductive IsText : Json → String → Prop where
  | intro (text : String)
    : IsText (.string text) text

/-- A natural number, written as an integer. -/
inductive IsNat : Json → Nat → Prop where
  | intro (number : Nat)
    : IsNat (.int number) number

/-- One of several named choices: its name, or an object with nothing but its name and null. -/
inductive IsChoice (names : List (String × α)) : Json → α → Prop where
  | name {name : String} {choice : α} (known : (name, choice) ∈ names)
    : IsChoice names (.string name) choice
  | key {name : String} {choice : α} (known : (name, choice) ∈ names)
    : IsChoice names (.object [(name, .null)]) choice

/-- A value that may be unset, which null stands for. -/
inductive IsOptional (kind : Json → α → Prop) : Json → Option α → Prop where
  | unset
    : IsOptional kind .null none
  | given {value : Json} {result : α} (notNull : value ≠ .null) (valid : kind value result)
    : IsOptional kind value (some result)

open SettingSource

/-- The reader of switches takes truth values for what they are. -/
theorem takes_bool : Takes bool? IsBool := by
  intro source value result means valid
  cases valid
  cases means.writtenAs
  rfl

/-- The reader of texts takes strings for what they are. -/
theorem takes_text : Takes text? IsText := by
  intro source value result means valid
  cases valid
  cases means.writtenAs
  rfl

/-- The reader of numbers takes natural numbers, since none of them has a sign in its text. -/
theorem takes_nat : Takes nat? IsNat := by
  intro source value result means valid
  cases valid
  cases means.writtenAs with
  | @int value numeral known =>
      have natural : (0 : Int) ≤ result := Int.natCast_nonneg result
      change (Source.number numeral).toNat? = _
      simp [toNat?, known]

/-- The reader of a choice takes its names, each by itself or as the only key of an object with null for
a value, as long as no name stands for two choices.
-/
theorem takes_choice {names : List (String × α)} (distinct : (names.map Prod.fst).Nodup)
    : Takes (choiceOf? names) (IsChoice names) := by
  have chosen {source : Source} {name : String} {choice : α} (picked : choice? source = some name)
      (known : (name, choice) ∈ names)
      : choiceOf? names source = some choice := by
    rw [choiceOf?, picked]
    exact (Association.lookup_eq_some_iff_mem distinct).mpr known
  intro source value result means valid
  cases valid with
  | name known =>
      cases means.writtenAs
      exact chosen rfl known
  | key known =>
      cases means.writtenAs with
      | object isMembers =>
          obtain ⟨source, others, rfl, isNull, none⟩ := exists_source_of_cons isMembers
          obtain rfl := List.forall₂_nil_right_iff.mp none
          cases isNull.writtenAs
          exact chosen rfl known

/-- What is written counts as nothing just if it means null. -/
theorem isNothing_iff {source : Source} {value : Json} (means : Means source value)
    : isNothing source = true ↔ value = .null := by
  cases means.writtenAs <;> simp [isNothing, isNull]

/-- A reader that takes a kind of value takes null as well once the value is made optional. -/
theorem Takes.optional {read : Source → Option α} {kind : Json → α → Prop} (reads : Takes read kind)
    : Takes (option? read) (IsOptional kind) := by
  intro source value result means valid
  unfold option?
  cases valid with
  | unset => rw [if_pos ((isNothing_iff means).mpr rfl)]
  | given notNull valid =>
      rw [if_neg fun nothing => notNull ((isNothing_iff means).mp nothing), reads means valid]
      rfl

-----------------------------------------------------------------------------------------
-- Fields
-----------------------------------------------------------------------------------------

/-- Members give a field no value, or give it once and with a valid value. -/
inductive Gives (members : List (String × Json)) (key : String) (kind : Json → α → Prop)
    : Option α → Prop where
  | absent (unset : ∀ member ∈ members, member.1 ≠ key)
    : Gives members key kind none
  | once {value : Json} {result : α} (only : members.filter (·.1 = key) = [(key, value)])
    (valid : kind value result)
    : Gives members key kind (some result)

section

variable {sources : List (Option String × Source)} {members : List (String × Json)}

/-- The members of a value that has a meaning all have keys. -/
theorem named_of_forall₂ (pairs : List.Forall₂ MemberMeans sources members)
    : sources.all (·.1.isSome) = true := by
  induction pairs with
  | nil => rfl
  | cons first _ ih => rw [List.all_cons, first.1, ih]; rfl

/-- The sources with a key mean the members with this key, by induction on the members. -/
theorem filter_key (pairs : List.Forall₂ MemberMeans sources members) (key : String)
    : List.Forall₂ MemberMeans (sources.filter (·.1 == some key)) (members.filter (·.1 = key)) := by
  induction pairs with
  | nil => exact .nil
  | @cons source member sources members first _ ih =>
      have sameKey : (source.1 == some key) = decide (member.1 = key) := by
        rw [first.1]
        by_cases here : member.1 = key <;> simp [here]
      rw [List.filter_cons, List.filter_cons, sameKey]
      split
      · exact .cons first ih
      · exact ih

/-- A field is found and read, or its default is taken. -/
theorem Gives.exists_field (pairs : List.Forall₂ MemberMeans sources members)
    {key : String} {read : Source → Option α} {kind : Json → α → Prop} {given : Option α}
    (gives : Gives members key kind given) (reads : Takes read kind)
    : ∃ field,
        memberValue? sources key = some field
        ∧ ∀ default, settingOr default read field = some (given.getD default) := by
  have found := filter_key pairs key
  unfold memberValue?
  cases gives with
  | absent unset =>
      have nothing : members.filter (·.1 = key) = [] :=
        List.filter_eq_nil_iff.mpr fun member listed => by simpa using unset member listed
      rw [nothing, List.forall₂_nil_right_iff] at found
      exact ⟨none, by rw [found], fun _ => rfl⟩
  | once only valid =>
      rw [only] at found
      obtain ⟨source, rest, ⟨_, means⟩, none, same⟩ := List.forall₂_cons_right_iff.mp found
      rw [List.forall₂_nil_right_iff.mp none] at same
      exact ⟨some source.2, by rw [same], fun _ => reads means valid⟩

end

end Docpress.Json
