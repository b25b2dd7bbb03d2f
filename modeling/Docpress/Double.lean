/-!
Finite binary floating-point numbers with 53 significant bits, and the rounding of ratios to them.
All arithmetic is exact on integers, with one rounding at the end of each operation.
-/

namespace Docpress

/-- The number `± mantissa · 2 ^ exponent`. -/
structure Double where
  negative : Bool
  mantissa : Nat
  exponent : Int
  deriving Repr, DecidableEq, Inhabited

namespace Double

/-- A power of two. -/
def twoTo (exponent : Nat) : Nat := Nat.pow 2 exponent

/-- A power of ten. -/
def tenTo (exponent : Nat) : Nat := Nat.pow 10 exponent

/-- The number of significant bits. -/
def precision : Nat := 53

/-- The exponent of the smallest numbers. -/
def minExponent : Int := -1074

/-- The exponent of the largest numbers. -/
def maxExponent : Int := 971

/-- Zero, with a sign. -/
def zero (negative : Bool) : Double := ⟨negative, 0, minExponent⟩

/-- Whether the number is zero, of either sign. -/
def isZero (x : Double) : Bool := x.mantissa == 0

/-- The integer nearest to `num / den`, and the even one of two that are equally near. -/
def divRound (num den : Nat) : Nat :=
  let quotient := num / den
  let rest := num % den
  if den < 2 * rest ∨ (2 * rest = den ∧ quotient % 2 = 1) then quotient + 1 else quotient

/-- `num / den` divided by `2 ^ exponent`, as a ratio. -/
def scaleDown (num den : Nat) (exponent : Int) : Nat × Nat :=
  if 0 ≤ exponent then (num, den * twoTo exponent.toNat) else (num * twoTo (-exponent).toNat, den)

/-- The number nearest to `num / den`. There is none if that lies beyond the largest number. -/
def ofRatio? (negative : Bool) (num den : Nat) : Option Double :=
  if num = 0 then
    some (zero negative)
  else
    let estimate : Int := (Nat.log2 num : Int) - Nat.log2 den - precision
    let low := max estimate minExponent
    let (lowNum, lowDen) := scaleDown num den low
    let exponent := if twoTo precision ≤ lowNum / lowDen then low + 1 else low
    let (num, den) := scaleDown num den exponent
    let mantissa := divRound num den
    let rounded : Double :=
      if mantissa = twoTo precision then ⟨negative, twoTo (precision - 1), exponent + 1⟩
      else ⟨negative, mantissa, exponent⟩
    if rounded.exponent ≤ maxExponent then some rounded else none

/-- The number nearest to a natural number. -/
def ofNat? (n : Nat) : Option Double :=
  ofRatio? false n 1

/-- The magnitude as a ratio of natural numbers. -/
def ratio (x : Double) : Nat × Nat :=
  if 0 ≤ x.exponent then (x.mantissa * twoTo x.exponent.toNat, 1)
  else (x.mantissa, twoTo (-x.exponent).toNat)

/-- The product of two magnitudes, rounded. -/
def mul? (x y : Double) : Option Double :=
  let (xNum, xDen) := x.ratio
  let (yNum, yDen) := y.ratio
  ofRatio? false (xNum * yNum) (xDen * yDen)

/-- The quotient of two magnitudes, rounded. The divisor must not be zero. -/
def div? (x y : Double) : Option Double :=
  let (xNum, xDen) := x.ratio
  let (yNum, yDen) := y.ratio
  ofRatio? false (xNum * yDen) (xDen * yNum)

end Double

end Docpress
