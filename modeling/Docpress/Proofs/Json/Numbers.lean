import Docpress.Json.Decode
import Docpress.Proofs.Json.Compact
import Docpress.Proofs.Text.Decimal

/-!
Integers of 64 bits, signed or unsigned, are read back from their text. A number of any size has a
value here, so that texts can be told in which a number stands that nobody asks for.
-/

namespace Docpress.Json

open Text

/-- The decimal digits of a number are digits, and there is at least one. -/
theorem digits_toDigits (number : Nat) : Digits (Nat.toDigits 10 number) :=
  ⟨Nat.toDigits_ne_nil, fun _ member => Nat.isDigit_of_mem_toDigits (by decide) (by decide) member⟩

/-- No digit but zero is written as zero. -/
theorem digitChar_ne_zero : ∀ digit < 10, 0 < digit → Nat.digitChar digit ≠ '0' := by
  decide

/-- The first digit of a positive number is not zero, by induction on the number without its last
digit.
-/
theorem exists_first_digit {number : Nat} (positive : 0 < number)
    : ∃ first rest, Nat.toDigits 10 number = first :: rest ∧ first ≠ '0' := by
  induction number using Nat.strongRecOn with
  | ind number ih =>
      rcases Nat.lt_or_ge number 10 with single | more
      · exact ⟨_, [], Nat.toDigits_of_lt_base single, digitChar_ne_zero number single positive⟩
      · obtain ⟨first, rest, digits, notZero⟩ := ih (number / 10) (by omega) (by omega)
        rw [Nat.toDigits_of_base_le (by decide) more, digits]
        exact ⟨first, rest ++ [Nat.digitChar (number % 10)], rfl, notZero⟩

/-- The decimal digits of a number are the whole part of a JSON number: unless it is zero, its first
digit is not.
-/
theorem writtenWhole_toDigits (number : Nat) : WrittenWhole (Nat.toDigits 10 number) := by
  rcases Nat.eq_zero_or_pos number with rfl | positive
  · exact .zero
  · obtain ⟨first, rest, digits, notZero⟩ := exists_first_digit positive
    have isDigits := digits_toDigits number
    rw [digits] at isDigits ⊢
    exact .positive isDigits notZero

/-- A natural number in decimal digits is a JSON number without fraction and exponent. -/
theorem writtenNumber_nat (number : Nat)
    : WrittenNumber (toString number).toList ⟨false, Nat.toDigits 10 number, [], none⟩ := by
  have isNumber := WrittenNumber.positive (writtenWhole_toDigits number) .none .none
  rw [Nat.toString_eq_ofList_toDigits, String.toList_ofList]
  simpa using isNumber

/-- A minus and decimal digits are a JSON number without fraction and exponent. -/
theorem writtenNumber_neg (number : Nat)
    : WrittenNumber ("-" ++ toString number).toList ⟨true, Nat.toDigits 10 number, [], none⟩ := by
  have isNumber := WrittenNumber.negative (writtenWhole_toDigits number) .none .none
  rw [String.toList_append, Nat.toString_eq_ofList_toDigits, String.toList_ofList]
  simpa using isNumber

/-- Digits come to the integer that they spell, as long as it is in the reader's range. -/
theorem value?_nat {number : Nat} (small : number ≤ maxSignificand)
    : Numeral.value? ⟨false, Nat.toDigits 10 number, [], none⟩ = some (.int number) := by
  simp [Numeral.value?, natOfDigits_toDigits, small]

/-- A minus and digits come to the negative integer that they spell, as long as it is in the reader's
range.
-/
theorem value?_neg {number : Nat} (positive : 0 < number) (small : number ≤ maxNegative)
    : Numeral.value? ⟨true, Nat.toDigits 10 number, [], none⟩ = some (.int (-number)) := by
  simp [Numeral.value?, natOfDigits_toDigits, positive, small]

/-- The value of a number. One that is too large for the reader stands for zero. -/
def Numeral.anyValue? (numeral : Numeral) : Option Json :=
  some (numeral.value?.getD (.double (Double.zero numeral.negative)))

/-- Whether a value is a number. -/
def isNumber : Json → Bool
  | .int _ => true
  | .double _ => true
  | _ => false

/-- What the reader makes of the parts of a number is a number: an integer or a double. -/
theorem isNumber_of_value? {numeral : Numeral} {value : Json} (known : numeral.value? = some value)
    : value.isNumber = true := by
  unfold Numeral.value? at known
  dsimp only at known
  split at known
  · cases known
    rfl
  · split at known
    · cases known
      rfl
    · obtain ⟨double, _, rfl⟩ := Option.map_eq_some_iff.mp known
      rfl

/-- What the parts of a number of any size come to is a number as well. -/
theorem isNumber_of_anyValue? {numeral : Numeral} {value : Json}
    (known : numeral.anyValue? = some value)
    : value.isNumber = true := by
  cases Option.some.inj known
  cases read : numeral.value? with
  | none => rfl
  | some value => exact isNumber_of_value? read

/-- Within the reader's range, a number comes to what the reader makes of it. -/
theorem anyValue?_of_value? {numeral : Numeral} {value : Json} (known : numeral.value? = some value)
    : numeral.anyValue? = some value := by
  rw [Numeral.anyValue?, known, Option.getD_some]

/-- What is an integer is so for the reader. -/
theorem value?_of_anyValue? {numeral : Numeral} {value : Int}
    (known : numeral.anyValue? = some (.int value))
    : numeral.value? = some (.int value) := by
  have same := Option.some.inj known
  cases read : numeral.value? with
  | none =>
      rw [read] at same
      cases same
  | some number =>
      rw [read] at same
      exact congrArg some same

/-- An integer in range is read back from its decimal digits, by cases on its sign. -/
theorem readsBack_int {value : Int} (low : -(maxNegative : Int) ≤ value)
    (high : value ≤ maxSignificand)
    : ReadsBack Numeral.anyValue? (.int value) := by
  cases value with
  | ofNat number =>
      have known := value?_nat (Int.ofNat_le.mp high)
      exact ⟨_, writtenNumber_nat number, anyValue?_of_value? known⟩
  | negSucc number =>
      have known := value?_neg (Nat.succ_pos number) (by omega)
      exact ⟨_, writtenNumber_neg (number + 1), anyValue?_of_value? known⟩

end Docpress.Json
