import Docpress.Double

/-!
The fewest decimal digits that read back as a given floating-point number, and their layout as text.
-/

namespace Docpress

/-- The positive number `0.d₁d₂…dₙ · 10 ^ point`, with the digits as one natural number. -/
structure Digits where
  digits : List Char
  point : Int
  deriving Repr, DecidableEq

namespace Double

/-- The magnitudes that read back as `x`: between the two ratios `low / den` and `high / den`, with
the ends included if `closed` holds. The magnitude itself is `value / den`.
-/
structure Interval where
  low : Nat
  value : Nat
  high : Nat
  den : Nat
  closed : Bool

/-- The interval of magnitudes that round to `x`. It reaches half-way to both neighbours, and the
lower neighbour of a power of two is nearer by half.
-/
def interval (x : Double) : Interval :=
  let lowStep := if x.mantissa = twoTo (precision - 1) ∧ minExponent < x.exponent then 1 else 2
  let exponent := x.exponent - 2
  let scale := if 0 ≤ exponent then twoTo exponent.toNat else 1
  { low := (4 * x.mantissa - lowStep) * scale
    value := 4 * x.mantissa * scale
    high := (4 * x.mantissa + 2) * scale
    den := if 0 ≤ exponent then 1 else twoTo (-exponent).toNat
    closed := x.mantissa % 2 = 0 }

/-- Whether the interval holds the magnitude `num / den`. -/
def Interval.contains (range : Interval) (num den : Nat) : Bool :=
  let low := range.low * den
  let high := range.high * den
  let value := num * range.den
  if range.closed then low ≤ value && value ≤ high else low < value && value < high

/-- The decimal exponent `k` with `10 ^ k ≤ num / den < 10 ^ (k + 1)`. -/
def decimalExponent (num den : Nat) : Int :=
  if den ≤ num then
    (Nat.toDigits 10 (num / den)).length - 1
  else
    let length := (Nat.toDigits 10 (den / num)).length
    if den ≤ num * tenTo (length - 1) then 1 - (length : Int) else -length

/-- The multiple of `10 ^ unit` inside the interval that is nearest to its value, if there is one.
Of two that are equally near the even one is taken.
-/
def nearestOnGrid? (range : Interval) (unit : Int) : Option Nat :=
  let up := if 0 ≤ unit then tenTo unit.toNat else 1
  let down := if 0 ≤ unit then 1 else tenTo (-unit).toNat
  let num := range.value * down
  let den := range.den * up
  let below := num / den
  let above := below + 1
  let holds := fun count => range.contains (count * up) down
  if holds below then
    if holds above then some (divRound num den) else some below
  else if holds above then some above else none

/-- The text of a count without the zeros at its end. -/
def significantDigits (count : Nat) : List Char :=
  ((Nat.toDigits 10 count).reverse.dropWhile (· == '0')).reverse

/-- The shortest digits that read back as the nonzero number `x`: the first of the grids with one,
two, … digits that has a point in the interval decides.
-/
def shortest (x : Double) : Digits :=
  let range := x.interval
  let exponent := decimalExponent range.value range.den
  let found := (List.range 17).findSome? fun (more : Nat) =>
    (nearestOnGrid? range (exponent - more)).map fun count => (count, exponent - more)
  let (count, unit) := found.getD (0, 0)
  ⟨significantDigits count, (Nat.toDigits 10 count).length + unit⟩

/-- How the digits of a number are laid out. -/
structure Layout where
  /-- The least decimal exponent written without an exponent. -/
  minPositional : Int
  /-- The largest decimal exponent written without an exponent. -/
  maxPositional : Int
  /-- What stands before the digits of an exponent that is not negative. -/
  exponentMark : String
  /-- What stands before the digits of a negative exponent. -/
  negativeExponentMark : String

/-- Lays out digits in positional notation, with at least one digit on both sides of the point. -/
def Digits.positional (digits : Digits) : List Char :=
  let count : Int := digits.digits.length
  if digits.point ≤ 0 then
    '0' :: '.' :: (List.replicate (-digits.point).toNat '0' ++ digits.digits)
  else if count ≤ digits.point then
    digits.digits ++ List.replicate (digits.point - count).toNat '0' ++ ['.', '0']
  else
    digits.digits.take digits.point.toNat ++ '.' :: digits.digits.drop digits.point.toNat

/-- Lays out digits with one digit before the point and an exponent. -/
def Digits.scientific (layout : Layout) (digits : Digits) : List Char :=
  let exponent := digits.point - 1
  let mark := if exponent < 0 then layout.negativeExponentMark else layout.exponentMark
  let fraction := match digits.digits.drop 1 with
    | [] => []
    | rest => '.' :: rest
  digits.digits.take 1 ++ fraction ++ mark.toList ++ Nat.toDigits 10 exponent.natAbs

/-- The text of a number in a layout. -/
def format (layout : Layout) (x : Double) : String :=
  let sign := if x.negative then "-" else ""
  if x.isZero then
    sign ++ "0.0"
  else
    let digits := x.shortest
    let exponent := digits.point - 1
    sign ++ String.ofList
      (if layout.minPositional ≤ exponent ∧ exponent ≤ layout.maxPositional then
        Digits.positional digits
      else
        Digits.scientific layout digits)

end Double

end Docpress
