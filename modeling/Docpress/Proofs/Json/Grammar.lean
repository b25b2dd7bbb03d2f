import Docpress.Json.Source

/-!
What JSON text denotes: the grammar of JSON over lists of characters, with the value beside each phrase.
What a number comes to is left to its readers, and the members of an object stand in the order in which
they are written.
-/

namespace Docpress.Json

open Text

-----------------------------------------------------------------------------------------
-- Blanks and numbers
-----------------------------------------------------------------------------------------

/-- Nothing but blanks, as they may stand around each token. -/
def Blanks (text : List Char) : Prop :=
  ∀ c ∈ text, c ∈ [' ', '\n', '\t', '\r']

/-- No text at all is a gap with nothing but blanks. -/
theorem blanks_nil : Blanks [] :=
  nofun

/-- Decimal digits, and at least one of them. -/
def Digits (text : List Char) : Prop :=
  text ≠ [] ∧ ∀ c ∈ text, c.isDigit = true

/-- The digits of a number before its point: they start with zero only if they are zero. -/
inductive WrittenWhole : List Char → Prop where
  | zero
    : WrittenWhole ['0']
  | positive {first : Char} {rest : List Char} (isDigits : Digits (first :: rest))
    (notZero : first ≠ '0')
    : WrittenWhole (first :: rest)

/-- The point of a number with the digits after it. Both may be missing. -/
inductive WrittenFraction : List Char → List Char → Prop where
  | none
    : WrittenFraction [] []
  | some {digits : List Char} (isDigits : Digits digits)
    : WrittenFraction ('.' :: digits) digits

/-- The sign of an exponent, which may be missing. -/
inductive WrittenSign : List Char → Bool → Prop where
  | none
    : WrittenSign [] false
  | plus
    : WrittenSign ['+'] false
  | minus
    : WrittenSign ['-'] true

/-- The exponent of a number, which may be missing. -/
inductive WrittenExponent : List Char → Option (Bool × List Char) → Prop where
  | none
    : WrittenExponent [] none
  | some {mark : Char} {sign digits : List Char} {negative : Bool} (isMark : mark = 'e' ∨ mark = 'E')
    (isSign : WrittenSign sign negative) (isDigits : Digits digits)
    : WrittenExponent (mark :: sign ++ digits) (some (negative, digits))

/-- A number, and its parts. -/
inductive WrittenNumber : List Char → Numeral → Prop where
  | positive {whole point fraction mark : List Char} {exponent : Option (Bool × List Char)}
    (isWhole : WrittenWhole whole) (isFraction : WrittenFraction point fraction)
    (isExponent : WrittenExponent mark exponent)
    : WrittenNumber (whole ++ point ++ mark) ⟨false, whole, fraction, exponent⟩
  | negative {whole point fraction mark : List Char} {exponent : Option (Bool × List Char)}
    (isWhole : WrittenWhole whole) (isFraction : WrittenFraction point fraction)
    (isExponent : WrittenExponent mark exponent)
    : WrittenNumber ('-' :: (whole ++ point ++ mark)) ⟨true, whole, fraction, exponent⟩

-----------------------------------------------------------------------------------------
-- Strings
-----------------------------------------------------------------------------------------

/-- The letters that may follow a backslash, each with the character that the two stand for. -/
def shortEscapes : List (Char × Char) :=
  [('"', '"'), ('\\', '\\'), ('/', '/'), ('b', '\x08'), ('f', '\x0c'), ('n', '\n'), ('r', '\r'),
    ('t', '\t')]

/-- Four hexadecimal digits, and the code unit that they stand for. -/
inductive CodeUnit : List Char → Nat → Prop where
  | intro {a b c d : Char} (hex : ∀ digit ∈ [a, b, c, d], isHexDigit digit = true)
    : CodeUnit [a, b, c, d] (natOfBase 16 [a, b, c, d])

/-- A character of a string, in the ways in which it can be written. -/
inductive WrittenChar : List Char → Char → Prop where
  | plain {c : Char} (visible : ' ' ≤ c) (notQuote : c ≠ '"') (notBackslash : c ≠ '\\')
    : WrittenChar [c] c
  | short {letter c : Char} (known : (letter, c) ∈ shortEscapes)
    : WrittenChar ['\\', letter] c
  | unit {digits : List Char} {c : Char} (isUnit : CodeUnit digits c.toNat)
    : WrittenChar ('\\' :: 'u' :: digits) c
  | pair {first second : List Char} {high low : Nat} {c : Char}
    (isFirst : CodeUnit first high) (isHigh : 0xD800 ≤ high ∧ high < 0xDC00)
    (isSecond : CodeUnit second low) (isLow : 0xDC00 ≤ low ∧ low < 0xE000)
    (joined : c.toNat = 0x10000 + (high - 0xD800) * 0x400 + (low - 0xDC00))
    : WrittenChar ('\\' :: 'u' :: first ++ '\\' :: 'u' :: second) c

/-- What stands between the quotes of a string, and the characters of the string. -/
inductive WrittenString : List Char → List Char → Prop where
  | nil
    : WrittenString [] []
  | cons {first written : List Char} {c : Char} {text : List Char} (isFirst : WrittenChar first c)
    (isRest : WrittenString written text)
    : WrittenString (first ++ written) (c :: text)

-----------------------------------------------------------------------------------------
-- Values
-----------------------------------------------------------------------------------------

section

variable (number : Numeral → Option Json)

mutual

/-- A text that starts and ends with a value, and this value. Numbers come to what `number` makes of
their parts.
-/
inductive Written : List Char → Json → Prop where
  | null
    : Written ['n', 'u', 'l', 'l'] .null
  | yes
    : Written ['t', 'r', 'u', 'e'] (.bool true)
  | no
    : Written ['f', 'a', 'l', 's', 'e'] (.bool false)
  | number {text : List Char} {numeral : Numeral} {value : Json}
    (isNumber : WrittenNumber text numeral) (known : number numeral = some value)
    : Written text value
  | string {written text : List Char} (isString : WrittenString written text)
    : Written ('"' :: written ++ ['"']) (.string (String.ofList text))
  | emptyArray {gap : List Char} (blanks : Blanks gap)
    : Written ('[' :: gap ++ [']']) (.array [])
  | array {written : List Char} {items : List Json} (isItems : WrittenItems written items)
    : Written ('[' :: written ++ [']']) (.array items)
  | emptyObject {gap : List Char} (blanks : Blanks gap)
    : Written ('\x7b' :: gap ++ ['\x7d']) (.object [])
  | object {written : List Char} {members : List (String × Json)}
    (isMembers : WrittenMembers written members)
    : Written ('\x7b' :: written ++ ['\x7d']) (.object members)

/-- A value with blanks around it. -/
inductive Denotes : List Char → Json → Prop where
  | intro {before written after : List Char} {value : Json} (blanksBefore : Blanks before)
    (isValue : Written written value) (blanksAfter : Blanks after)
    : Denotes (before ++ written ++ after) value

/-- Items of an array, with commas between them. -/
inductive WrittenItems : List Char → List Json → Prop where
  | one {written : List Char} {item : Json} (isItem : Denotes written item)
    : WrittenItems written [item]
  | more {written others : List Char} {item : Json} {items : List Json}
    (isItem : Denotes written item) (isItems : WrittenItems others items)
    : WrittenItems (written ++ ',' :: others) (item :: items)

/-- A key and a value, with a colon between them. -/
inductive WrittenMember : List Char → String × Json → Prop where
  | intro {before key text after written : List Char} {value : Json} (blanksBefore : Blanks before)
    (isKey : WrittenString key text) (blanksAfter : Blanks after) (isValue : Denotes written value)
    : WrittenMember (before ++ '"' :: key ++ '"' :: after ++ ':' :: written)
        (String.ofList text, value)

/-- Members of an object, with commas between them. -/
inductive WrittenMembers : List Char → List (String × Json) → Prop where
  | one {written : List Char} {member : String × Json} (isMember : WrittenMember written member)
    : WrittenMembers written [member]
  | more {written others : List Char} {member : String × Json} {members : List (String × Json)}
    (isMember : WrittenMember written member) (isMembers : WrittenMembers others members)
    : WrittenMembers (written ++ ',' :: others) (member :: members)

end

end

-----------------------------------------------------------------------------------------
-- The values in a value
-----------------------------------------------------------------------------------------

mutual

/-- A value and the values in it, in the order in which they are written. -/
def preorder : Json → List Json
  | .array items => .array items :: preorderItems items
  | .object members => .object members :: preorderMembers members
  | .null => [.null]
  | .bool value => [.bool value]
  | .int value => [.int value]
  | .double value => [.double value]
  | .string value => [.string value]

/-- The values in the items of an array. -/
def preorderItems : List Json → List Json
  | [] => []
  | item :: rest => preorder item ++ preorderItems rest

/-- The values in the members of an object. -/
def preorderMembers : List (String × Json) → List Json
  | [] => []
  | (_, value) :: rest => preorder value ++ preorderMembers rest

end

/-- The parts of array items are the parts of each item, by induction on the items. -/
theorem mem_preorderItems {part : Json} {items : List Json}
    : part ∈ preorderItems items ↔ ∃ item ∈ items, part ∈ item.preorder := by
  induction items with
  | nil => simp [preorderItems]
  | cons item rest ih => simp [preorderItems, ih]

/-- The parts of object members are the parts of each member's value, by induction on the members. -/
theorem mem_preorderMembers {part : Json} {members : List (String × Json)}
    : part ∈ preorderMembers members ↔ ∃ member ∈ members, part ∈ member.2.preorder := by
  induction members with
  | nil => simp [preorderMembers]
  | cons member rest ih => simp [preorderMembers, ih]

/-- No object in a value has a key twice. -/
def KeysDistinct (value : Json) : Prop :=
  ∀ members, .object members ∈ value.preorder → (members.map Prod.fst).Nodup

/-- A reader takes each text without numbers for the value that it denotes, with members in order and
however deep they are nested. What it makes of numbers and of keys that stand twice is its own affair.
-/
def Conforming (read : String → Option Json) : Prop :=
  ∀ text value, Denotes (fun _ => none) text.toList value → value.KeysDistinct → read text = some value

end Docpress.Json
