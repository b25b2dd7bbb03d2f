import Docpress.Text.Digit
import Mathlib.Logic.Function.Basic

/-!
The decimal text of natural numbers: reading the digits back gives the number.
-/

namespace Docpress.Text

/-- The decimal digits of a number spell this number. -/
theorem natOfDigits_toDigits (number : Nat) : natOfDigits (Nat.toDigits 10 number) = number := by
  have known := Nat.ofDigitChars_ten_toDigits (n := number)
  rw [Nat.ofDigitChars_eq_foldl] at known
  unfold natOfDigits
  simpa only [digitValue, Nat.mul_comm] using known

/-- Numbers with one decimal text are the same, since the digits spell them. -/
theorem toString_nat_injective : Function.Injective (toString : Nat → String) := by
  intro left right same
  have digits := congrArg (fun text => Nat.ofDigitChars 10 text.toList 0) same
  simpa only [Nat.toString_eq_repr, Nat.toList_repr, Nat.ofDigitChars_ten_toDigits] using digits

/-- A number is written after a given text in one way only. -/
theorem append_toString_nat_injective (before : String)
    : Function.Injective fun number : Nat => before ++ toString number := by
  intro left right same
  exact toString_nat_injective ((String.append_right_inj before).mp same)

end Docpress.Text
