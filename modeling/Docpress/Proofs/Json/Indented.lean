import Docpress.Proofs.Json.Compact

/-!
Indented texts are JSON: the indented text of a value denotes this value, as the compact one does.
-/

namespace Docpress.Json

/-- A new line is a line break with two spaces for each level. -/
theorem toList_newline (level : Nat)
    : (newline level).toList = '\n' :: List.replicate (2 * level) ' ' :=
  String.toList_ofList

/-- A new line is nothing but blanks. -/
theorem blanks_newline (level : Nat) : Blanks (newline level).toList := by
  rw [toList_newline]
  intro c member
  rcases List.mem_cons.mp member with rfl | indent
  · simp
  · simp [List.eq_of_mem_replicate indent]

/-- The space behind a colon is a blank. -/
theorem blanks_space : Blanks [' '] := by
  simp [Blanks]

variable {number : Numeral → Option Json}

/-- An item on a line of its own, with blanks behind it. -/
theorem Written.denotes_line {text gap : List Char} {value : Json}
    (isValue : Written number text value)
    (level : Nat) (blanks : Blanks gap)
    : Denotes number ((newline level).toList ++ text ++ gap) value :=
  .intro (blanks_newline level) isValue blanks

/-- A member on a line of its own, with blanks behind it. -/
theorem Written.member_line {text gap : List Char} {value : Json}
    (isValue : Written number text value)
    (level : Nat) (key : String) (blanks : Blanks gap)
    : WrittenMember number
        ((newline level).toList ++ (quote key).toList ++ ':' :: ' ' :: text ++ gap)
        (key, value) := by
  have isMember := WrittenMember.intro (blanks_newline level) (writtenString_escape key.toList)
    blanks_nil (.intro blanks_space isValue blanks)
  rw [String.ofList_toList] at isMember
  rw [toList_quote]
  simpa using isMember

mutual

/-- The indented text is a text of the value, by induction on the value. -/
theorem written_prettyAt (level : Nat) : (value : Json)
    → (∀ part ∈ value.preorder, ReadsBack number part)
    → Written number (value.prettyAt level).toList value
  | .null, numbers => written_compact .null numbers
  | .bool value, numbers => written_compact (.bool value) numbers
  | .int value, numbers => written_compact (.int value) numbers
  | .double value, numbers => written_compact (.double value) numbers
  | .string value, numbers => written_compact (.string value) numbers
  | .array [], _ => by
      have empty : Written number _ _ := .emptyArray blanks_nil
      simpa [prettyAt] using empty
  | .array (item :: rest), numbers => by
      have isItems := writtenItems_pretty (level + 1) (blanks_newline level) (item :: rest)
        (List.cons_ne_nil _ _) fun part member => numbers part (List.mem_cons_of_mem _ member)
      simpa [prettyAt] using Written.array isItems
  | .object [], _ => by
      have empty : Written number _ _ := .emptyObject blanks_nil
      simpa [prettyAt] using empty
  | .object (member :: rest), numbers => by
      have isMembers := writtenMembers_pretty (level + 1) (blanks_newline level) (member :: rest)
        (List.cons_ne_nil _ _) fun part listed => numbers part (List.mem_cons_of_mem _ listed)
      simpa [prettyAt] using Written.object isMembers

/-- Array items on lines of their own are written as the grammar allows, by induction on the items. The
blanks behind the last of them are left to the bracket that follows.
-/
theorem writtenItems_pretty (level : Nat) {gap : List Char} (blanks : Blanks gap)
    : (items : List Json) → items ≠ [] → (∀ part ∈ preorderItems items, ReadsBack number part)
    → WrittenItems number ((prettyItems level items).toList ++ gap) items
  | [], nonempty, _ => absurd rfl nonempty
  | [item], _, numbers => by
      have isItem := written_prettyAt level item fun part member =>
        numbers part (List.mem_append_left _ member)
      simpa [prettyItems] using WrittenItems.one (isItem.denotes_line level blanks)
  | item :: next :: rest, _, numbers => by
      have isItem := written_prettyAt level item fun part member =>
        numbers part (List.mem_append_left _ member)
      have isItems := writtenItems_pretty level blanks (next :: rest) (List.cons_ne_nil _ _)
        fun part member => numbers part (List.mem_append_right _ member)
      simpa [prettyItems] using WrittenItems.more (isItem.denotes_line level blanks_nil) isItems

/-- Object members on lines of their own are written as the grammar allows, by induction on the members,
as array items are.
-/
theorem writtenMembers_pretty (level : Nat) {gap : List Char} (blanks : Blanks gap)
    : (members : List (String × Json)) → members ≠ []
    → (∀ part ∈ preorderMembers members, ReadsBack number part)
    → WrittenMembers number ((prettyMembers level members).toList ++ gap) members
  | [], nonempty, _ => absurd rfl nonempty
  | [(key, value)], _, numbers => by
      have isValue := written_prettyAt level value fun part member =>
        numbers part (List.mem_append_left _ member)
      simpa [prettyMembers] using WrittenMembers.one (isValue.member_line level key blanks)
  | (key, value) :: next :: rest, _, numbers => by
      have isValue := written_prettyAt level value fun part member =>
        numbers part (List.mem_append_left _ member)
      have isMembers := writtenMembers_pretty level blanks (next :: rest) (List.cons_ne_nil _ _)
        fun part member => numbers part (List.mem_append_right _ member)
      simpa [prettyMembers]
        using WrittenMembers.more (isValue.member_line level key blanks_nil) isMembers

end

end Docpress.Json
