import Docpress.Proofs.Json.Grammar

/-!
Compact texts are JSON: the compact text of a value denotes this value, if its numbers are read back as
they are written.
-/

namespace Docpress.Json

open Text

-----------------------------------------------------------------------------------------
-- Strings
-----------------------------------------------------------------------------------------

/-- A hexadecimal digit is read as the number that it was written for, checked for all sixteen. -/
theorem hexDigit?_digitChar
    : ∀ digit < 16, hexDigit? (Nat.digitChar digit) = some digit := by
  decide

/-- The digits of a number of two digits, with zeros before them. -/
theorem paddedDigits_eq {unit : Nat} (small : unit < 256)
    : List.replicate (4 - (Nat.toDigits 16 unit).length) '0' ++ Nat.toDigits 16 unit
      = ['0', '0', Nat.digitChar (unit / 16), Nat.digitChar (unit % 16)] := by
  rcases Nat.lt_or_ge unit 16 with one | two
  · rw [Nat.toDigits_of_lt_base one, Nat.div_eq_of_lt one, Nat.mod_eq_of_lt one]
    rfl
  · have first : unit / 16 < 16 := by omega
    rw [Nat.toDigits_of_base_le (by decide) two, Nat.toDigits_of_lt_base first]
    rfl

/-- A number below 256 is the code unit of two zeros and its two hexadecimal digits. -/
theorem codeUnit_paddedDigits {unit : Nat} (small : unit < 256)
    : CodeUnit ['0', '0', Nat.digitChar (unit / 16), Nat.digitChar (unit % 16)] unit := by
  have zero : hexDigit? '0' = some 0 := rfl
  have first := hexDigit?_digitChar (unit / 16) (by omega)
  have second := hexDigit?_digitChar (unit % 16) (by omega)
  have value
      : natOfBase 16 ['0', '0', Nat.digitChar (unit / 16), Nat.digitChar (unit % 16)] = unit := by
    simp only [natOfBase, List.foldl_cons, List.foldl_nil, zero, first, second, Option.getD_some]
    omega
  have hex : ∀ digit ∈ ['0', '0', Nat.digitChar (unit / 16), Nat.digitChar (unit % 16)],
      isHexDigit digit = true := by
    intro digit member
    simp only [List.mem_cons, List.not_mem_nil, or_false] at member
    rcases member with rfl | rfl | rfl | rfl <;> simp [isHexDigit, zero, first, second]
  have isUnit := CodeUnit.intro hex
  rwa [value] at isUnit

/-- A control character is escaped by its code unit. -/
theorem writtenChar_escapeControl {c : Char} (control : c < ' ') : WrittenChar (escapeControl c) c := by
  have small : c.toNat < 256 := Nat.lt_trans control (by decide)
  unfold escapeControl
  dsimp only
  rw [List.append_assoc, paddedDigits_eq small]
  exact .unit (codeUnit_paddedDigits small)

/-- An escaped character is written as the grammar allows, by cases on how it is escaped: in short form,
as a control character or not at all.
-/
theorem writtenChar_escapeChar (c : Char) : WrittenChar (escapeChar c) c := by
  unfold escapeChar
  simp only [beq_iff_eq]
  split
  next same => subst same; exact .short (by decide)
  split
  next same => subst same; exact .short (by decide)
  next notQuote notBackslash =>
  split
  next same => subst same; exact .short (by decide)
  split
  next same => subst same; exact .short (by decide)
  split
  next same => subst same; exact .short (by decide)
  split
  next same => subst same; exact .short (by decide)
  split
  next same => subst same; exact .short (by decide)
  split
  next control => exact writtenChar_escapeControl control
  next visible => exact .plain (Char.not_lt.mp visible) notQuote notBackslash

/-- A string is written character by character. -/
theorem writtenString_escape (text : List Char) : WrittenString (text.flatMap escapeChar) text := by
  induction text with
  | nil => exact .nil
  | cons c text ih => exact .cons (writtenChar_escapeChar c) ih

/-- The text of a quoted string: each character escaped by itself, between two quotes. -/
theorem toList_quote (text : String)
    : (quote text).toList = '"' :: text.toList.flatMap escapeChar ++ ['"'] :=
  String.toList_ofList

-----------------------------------------------------------------------------------------
-- Values
-----------------------------------------------------------------------------------------

/-- A value that is a number is what is made of its text. -/
def ReadsBack (number : Numeral → Option Json) : Json → Prop
  | .int value =>
    ∃ numeral, WrittenNumber (toString value).toList numeral ∧ number numeral = some (.int value)
  | .double value =>
    ∃ numeral,
      WrittenNumber (value.format numberLayout).toList numeral ∧ number numeral = some (.double value)
  | _ => True

variable {number : Numeral → Option Json}

/-- A value without blanks around it denotes itself. -/
theorem Written.denotes {text : List Char} {value : Json} (isValue : Written number text value)
    : Denotes number text value := by
  simpa using Denotes.intro blanks_nil isValue blanks_nil

/-- A member without blanks. -/
theorem writtenMember_quote {text : List Char} {value : Json} (key : String)
    (isValue : Written number text value)
    : WrittenMember number ((quote key).toList ++ ':' :: text) (key, value) := by
  have isMember := WrittenMember.intro blanks_nil (writtenString_escape key.toList) blanks_nil
    isValue.denotes
  rw [String.ofList_toList] at isMember
  rw [toList_quote]
  simpa using isMember

mutual

/-- The compact text is a text of the value, by induction on the value. -/
theorem written_compact : (value : Json) → (∀ part ∈ value.preorder, ReadsBack number part)
    → Written number value.compact.toList value
  | .null, _ => .null
  | .bool true, _ => .yes
  | .bool false, _ => .no
  | .int value, numbers => by
      obtain ⟨numeral, isNumber, known⟩ := numbers (.int value) List.mem_cons_self
      exact .number isNumber known
  | .double value, numbers => by
      obtain ⟨numeral, isNumber, known⟩ := numbers (.double value) List.mem_cons_self
      exact .number isNumber known
  | .string value, _ => by
      -- The text of a quoted string comes with its quotes, as the grammar has it.
      have isString : Written number _ _ := .string (writtenString_escape value.toList)
      rw [String.ofList_toList, ← toList_quote] at isString
      exact isString
  | .array [], _ => .emptyArray blanks_nil
  | .array (item :: rest), numbers => by
      have isItems := writtenItems_compact (item :: rest) (List.cons_ne_nil _ _)
        fun part member => numbers part (List.mem_cons_of_mem _ member)
      simpa [compact] using Written.array isItems
  | .object [], _ => .emptyObject blanks_nil
  | .object (member :: rest), numbers => by
      have isMembers := writtenMembers_compact (member :: rest) (List.cons_ne_nil _ _)
        fun part listed => numbers part (List.mem_cons_of_mem _ listed)
      simpa [compact] using Written.object isMembers

/-- Array items without blanks are written as the grammar allows, by induction on the items. -/
theorem writtenItems_compact : (items : List Json) → items ≠ []
    → (∀ part ∈ preorderItems items, ReadsBack number part)
    → WrittenItems number (compactItems items).toList items
  | [], nonempty, _ => absurd rfl nonempty
  | [item], _, numbers =>
      .one (written_compact item fun part member =>
        numbers part (List.mem_append_left _ member)).denotes
  | item :: next :: rest, _, numbers => by
      have isItem := written_compact item fun part member =>
        numbers part (List.mem_append_left _ member)
      have isItems := writtenItems_compact (next :: rest) (List.cons_ne_nil _ _)
        fun part member => numbers part (List.mem_append_right _ member)
      simpa [compactItems] using WrittenItems.more isItem.denotes isItems

/-- Object members without blanks are written as the grammar allows, by induction on the members. -/
theorem writtenMembers_compact : (members : List (String × Json)) → members ≠ []
    → (∀ part ∈ preorderMembers members, ReadsBack number part)
    → WrittenMembers number (compactMembers members).toList members
  | [], nonempty, _ => absurd rfl nonempty
  | [(key, value)], _, numbers => by
      have isValue := written_compact value fun part member =>
        numbers part (List.mem_append_left _ member)
      simpa [compactMembers] using WrittenMembers.one (writtenMember_quote key isValue)
  | (key, value) :: next :: rest, _, numbers => by
      have isValue := written_compact value fun part member =>
        numbers part (List.mem_append_left _ member)
      have isMembers := writtenMembers_compact (next :: rest) (List.cons_ne_nil _ _)
        fun part member => numbers part (List.mem_append_right _ member)
      simpa [compactMembers] using WrittenMembers.more (writtenMember_quote key isValue) isMembers

end

end Docpress.Json
