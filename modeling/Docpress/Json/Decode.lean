import Docpress.Json.Source

/-!
The meaning of written JSON: numbers, free-form values, and records read from objects or arrays.
A reading is refused as a whole, whatever is wrong with it.
-/

namespace Docpress.Json

/-- How deep arrays and objects may nest in what is read. -/
def maxNesting : Nat := 127

/-- The largest significand that is read digit by digit: the largest number of 64 bits. -/
def maxSignificand : Nat := 18446744073709551615

/-- The magnitude of the smallest integer of 64 bits. -/
def maxNegative : Nat := 9223372036854775808

namespace Numeral

open Text

/-- The significand of a number that is being read, and the power of ten it is scaled by. Digits
that no longer fit the significand only scale it.
-/
structure Scan where
  significand : Nat
  exponent : Int := 0
  full : Bool := false

/-- Reads a digit before the point. -/
def Scan.whole (scan : Scan) (c : Char) : Scan :=
  let next := scan.significand * 10 + digitValue c
  if scan.full || maxSignificand < next then
    { scan with exponent := scan.exponent + 1, full := true }
  else
    { scan with significand := next }

/-- Reads a digit after the point. -/
def Scan.fraction (scan : Scan) (c : Char) : Scan :=
  let next := scan.significand * 10 + digitValue c
  if scan.full || maxSignificand < next then
    { scan with full := true }
  else
    { scan with significand := next, exponent := scan.exponent - 1 }

/-- The powers of ten that a floating-point number holds. -/
def maxPowerOfTen : Nat := 308

/-- The floating-point number `significand · 10 ^ exponent`: the significand is rounded first and
then scaled, with one more rounding for each division.
-/
def scale? (significand : Double) (exponent : Int) : Option Double :=
  if 0 ≤ exponent then
    if exponent ≤ maxPowerOfTen then
      (Double.ofNat? (Double.tenTo exponent.toNat)).bind significand.mul?
    else if significand.isZero then
      some significand
    else
      none
  else
    go ((-exponent).toNat / maxPowerOfTen + 1) significand (-exponent).toNat
where
  /-- Divides by `10 ^ down` in steps of at most `10 ^ 308`. -/
  go : Nat → Double → Nat → Option Double
    | 0, x, _ => some x
    | steps + 1, x, down =>
      if down ≤ maxPowerOfTen then
        (Double.ofNat? (Double.tenTo down)).bind x.div?
      else if x.isZero then
        some x
      else do
        let limit ← Double.ofNat? (Double.tenTo maxPowerOfTen)
        go steps (← x.div? limit) (down - maxPowerOfTen)

/-- The largest written exponent that is computed with. -/
def maxExponent : Nat := 2147483647

/-- The floating-point number that a number with a point, an exponent or too many digits denotes.
Too large a number denotes none.
-/
def double? (numeral : Numeral) : Option Double := do
  let scan := numeral.whole.foldl Scan.whole { significand := 0 }
  let scan := numeral.fraction.foldl Scan.fraction { scan with full := false }
  let (negativeExponent, exponent) := match numeral.exponent with
    | some (negative, digits) => (negative, natOfDigits digits)
    | none => (false, 0)
  let magnitude ←
    if maxExponent < exponent then
      if scan.significand = 0 || negativeExponent then some (Double.zero false) else none
    else do
      let significand ← Double.ofNat? scan.significand
      scale? significand
        (if negativeExponent then scan.exponent - exponent else scan.exponent + exponent)
  return { magnitude with negative := numeral.negative }

/-- The value of a number. It is an integer if it is written as one and fits 64 bits, signed or
unsigned; minus zero is not.
-/
def value? (numeral : Numeral) : Option Json :=
  let whole := natOfDigits numeral.whole
  let plain := numeral.fraction.isEmpty && numeral.exponent.isNone
  if plain && !numeral.negative && whole ≤ maxSignificand then
    some (.int whole)
  else if plain && numeral.negative && 0 < whole && whole ≤ maxNegative then
    some (.int (-whole))
  else
    numeral.double?.map .double

end Numeral

/-- Adds a member to an object. A key that is there already keeps its place and gets the new value.
-/
def putMember (members : List (String × Json)) (key : String) (value : Json)
    : List (String × Json) :=
  if members.any (·.1 == key) then
    members.map fun member => if member.1 == key then (key, value) else member
  else
    members ++ [(key, value)]

namespace Source

mutual

/-- The value that a text denotes, if its arrays and objects nest at most `levels` deep. -/
def toJson? (levels : Nat) : Source → Option Json
  | .null => some .null
  | .bool value => some (.bool value)
  | .number numeral => numeral.value?
  | .string text => text.map .string
  | .array items =>
    match levels with
    | 0 => none
    | levels + 1 => (itemsToJson? levels items).map .array
  | .object members =>
    match levels with
    | 0 => none
    | levels + 1 => (membersToJson? levels [] members).map .object

/-- The values that array items denote. -/
def itemsToJson? (levels : Nat) : List Source → Option (List Json)
  | [] => some []
  | item :: rest => do
    let item ← toJson? levels item
    let rest ← itemsToJson? levels rest
    return item :: rest

/-- The members read so far, followed by those that the given ones denote. -/
def membersToJson? (levels : Nat) (done : List (String × Json))
    : List (Option String × Source) → Option (List (String × Json))
  | [] => some done
  | (key, value) :: rest => do
    let key ← key
    let value ← toJson? levels value
    membersToJson? levels (putMember done key value) rest

end

/-- A truth value. -/
def toBool? : Source → Option Bool
  | .bool value => some value
  | _ => none

/-- A text. -/
def toText? : Source → Option String
  | .string text => text
  | _ => none

/-- A natural number of 64 bits, written as an integer. -/
def toNat? : Source → Option Nat
  | .number numeral =>
    match numeral.value? with
    | some (.int value) => if 0 ≤ value then some value.toNat else none
    | _ => none
  | _ => none

/-- A list of values. -/
def toList? (read : Source → Option α) : Source → Option (List α)
  | .array items => items.mapM read
  | _ => none

/-- The value of the only member with the given key. There must not be a second one. -/
def memberValue? (members : List (Option String × Source)) (key : String)
    : Option (Option Source) :=
  match members.filter (·.1 == some key) with
  | [] => some none
  | [member] => some (some member.2)
  | _ => none

/-- The fields of a record, in the order of their names. An object gives each field under its name,
at most once, and may have other members; an array gives the fields in order and may be shorter.
-/
def fields? (names : List String) : Source → Option (List (Option Source))
  | .object members =>
    if members.all (·.1.isSome) then names.mapM (memberValue? members) else none
  | .array items =>
    if items.length ≤ names.length then
      some (items.map some ++ List.replicate (names.length - items.length) none)
    else
      none
  | _ => none

end Source

end Docpress.Json
