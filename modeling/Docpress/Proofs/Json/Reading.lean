import Docpress.Proofs.Json.Grammar
import Docpress.Json.Decode
import Mathlib.Data.List.DropRight

/-!
The reader of JSON texts reads all that the grammar allows, and reads it as what it denotes. A text
denotes one value therefore, and there is a reader that conforms.
-/

namespace Docpress.Json

open Text Source

-----------------------------------------------------------------------------------------
-- Blanks
-----------------------------------------------------------------------------------------

/-- The reader's blanks are the four characters of the grammar. -/
theorem isBlank_iff {c : Char} : isBlank c = true ↔ c ∈ [' ', '\n', '\t', '\r'] := by
  simp only [isBlank, Bool.or_eq_true, beq_iff_eq, List.mem_cons, List.not_mem_nil, or_false,
    or_assoc]

/-- Blanks in front of a text are skipped together with the blanks that the text starts with. -/
theorem Blanks.skipBlanks_append {gap : List Char} (blanks : Blanks gap) (rest : List Char)
    : skipBlanks (gap ++ rest) = skipBlanks rest :=
  List.dropWhile_append_of_pos fun c member => isBlank_iff.mpr (blanks c member)

/-- Skipping blanks a second time changes nothing. -/
@[simp]
theorem skipBlanks_skipBlanks (text : List Char) : skipBlanks (skipBlanks text) = skipBlanks text :=
  List.dropWhile_idempotent isBlank text

/-- A text that starts with something visible stays whole when blanks are skipped. -/
theorem skipBlanks_cons {c : Char} (visible : isBlank c = false) (rest : List Char)
    : skipBlanks (c :: rest) = c :: rest :=
  List.dropWhile_cons_of_neg (by rw [visible]; exact Bool.false_ne_true)

/-- Blanks are skipped up to the first visible character, by the two lemmas before. -/
theorem Blanks.skipBlanks_cons {gap : List Char} (blanks : Blanks gap) {c : Char}
    (visible : isBlank c = false) (rest : List Char)
    : skipBlanks (gap ++ c :: rest) = c :: rest :=
  (blanks.skipBlanks_append _).trans (Json.skipBlanks_cons visible rest)

-----------------------------------------------------------------------------------------
-- Numbers
-----------------------------------------------------------------------------------------

/-- A text does not start with one of the given characters. -/
def StartsWithout (p : Char → Bool) (text : List Char) : Prop :=
  ∀ c rest, text = c :: rest → p c = false

/-- The characters with which a number may go on. -/
def goesOn (c : Char) : Bool :=
  c.isDigit || c == '.' || c == 'e' || c == 'E'

/-- An empty text starts with no character at all. -/
theorem startsWithout_nil (p : Char → Bool) : StartsWithout p [] :=
  nofun

/-- A text does not start with any of the characters if its first character is none of them. -/
theorem startsWithout_cons {p : Char → Bool} {c : Char} (other : p c = false) (rest : List Char)
    : StartsWithout p (c :: rest) := by
  intro first others same
  cases same
  exact other

/-- A text that avoids more characters at its start avoids fewer. -/
theorem StartsWithout.mono {p q : Char → Bool} {text : List Char} (without : StartsWithout p text)
    (fewer : ∀ c, p c = false → q c = false)
    : StartsWithout q text :=
  fun c rest same => fewer c (without c rest same)

/-- A character with which no number goes on is no digit. -/
theorem isDigit_of_goesOn {c : Char} (other : goesOn c = false) : c.isDigit = false := by
  simp only [goesOn, Bool.or_eq_false_iff] at other
  exact other.1.1.1

/-- No number goes on behind blanks. -/
theorem Blanks.startsWithout {gap rest : List Char} (blanks : Blanks gap)
    (stops : StartsWithout goesOn rest)
    : StartsWithout goesOn (gap ++ rest) := by
  cases gap with
  | nil => exact stops
  | cons c gap =>
      have blank := blanks c List.mem_cons_self
      refine startsWithout_cons ?_ _
      simp only [List.mem_cons, List.not_mem_nil, or_false] at blank
      rcases blank with rfl | rfl | rfl | rfl <;> rfl

/-- The digits in front are spanned whole, up to the first character that is no digit. -/
theorem spanDigits_append {digits rest : List Char} (isDigits : ∀ c ∈ digits, c.isDigit = true)
    (stops : StartsWithout Char.isDigit rest)
    : spanDigits (digits ++ rest) = (digits, rest) := by
  unfold spanDigits
  rw [List.takeWhile_append_of_pos isDigits, List.dropWhile_append_of_pos isDigits]
  cases rest with
  | nil => rw [List.takeWhile_nil, List.dropWhile_nil, List.append_nil]
  | cons c rest =>
      have other : ¬c.isDigit = true := by rw [stops c rest rfl]; exact Bool.false_ne_true
      rw [List.takeWhile_cons_of_neg other, List.dropWhile_cons_of_neg other, List.append_nil]

/-- The whole part of a number is read as it is written, by cases on whether it is a single zero. -/
theorem wholePart?_append {whole rest : List Char} (isWhole : WrittenWhole whole)
    (stops : StartsWithout Char.isDigit rest)
    : wholePart? (whole ++ rest) = some (whole, rest) := by
  unfold wholePart?
  cases isWhole with
  | zero =>
      rw [spanDigits_append (by simp) stops]
      rfl
  | positive isDigits notZero =>
      rw [spanDigits_append isDigits.2 stops]
      split
      next same => cases same
      next same =>
        cases same
        exact absurd rfl notZero
      next => rfl

/-- The fraction of a number is read as it is written. A missing one is told from a present one by the
character behind it, which may be neither a point nor a digit.
-/
theorem fractionPart?_append {point fraction rest : List Char}
    (isFraction : WrittenFraction point fraction)
    (stops : StartsWithout (fun c => c.isDigit || c == '.') rest)
    : fractionPart? (point ++ rest) = some (fraction, rest) := by
  cases isFraction with
  | none =>
      rw [List.nil_append]
      unfold fractionPart?
      split
      next rest =>
        have clash := stops '.' rest rfl
        simp at clash
      next => rfl
  | some isDigits =>
      rw [List.cons_append, fractionPart?, spanDigits_append isDigits.2
        (stops.mono fun c other => (Bool.or_eq_false_iff.mp other).1)]
      split
      next same =>
        cases same
        exact absurd rfl isDigits.1
      next => rfl

/-- The exponent of a number is read as it is written, by cases on its sign. Its first digit is not
mistaken for a sign.
-/
theorem exponentPart?_append {mark rest : List Char} {exponent : Option (Bool × List Char)}
    (isExponent : WrittenExponent mark exponent) (stops : StartsWithout goesOn rest)
    : exponentPart? (mark ++ rest) = some (exponent, rest) := by
  unfold exponentPart?
  cases isExponent with
  | none =>
      rw [List.nil_append]
      cases rest with
      | nil => rfl
      | cons c rest =>
          have other := stops c rest rfl
          simp only [goesOn, Bool.or_eq_false_iff] at other
          dsimp only
          rw [other.1.2, other.2]
          rfl
  | @some mark sign digits negative isMark isSign isDigits =>
      have marked : (mark == 'e' || mark == 'E') = true := by
        rcases isMark with rfl | rfl <;> rfl
      obtain ⟨first, others, rfl⟩ := List.exists_cons_of_ne_nil isDigits.1
      have known := spanDigits_append isDigits.2 (stops.mono fun c => isDigit_of_goesOn)
      rw [List.cons_append] at known
      rw [List.cons_append, List.cons_append, List.append_assoc]
      dsimp only
      rw [if_pos marked]
      cases isSign with
      | plus | minus => simp [known]
      | none =>
          have digit := isDigits.2 first List.mem_cons_self
          have notPlus : first ≠ '+' := ne_of_apply_ne Char.isDigit (by simp [digit])
          have notMinus : first ≠ '-' := ne_of_apply_ne Char.isDigit (by simp [digit])
          simp [known, notPlus, notMinus]

/-- Behind the digits of a fraction stands the exponent or what is behind the number. -/
theorem WrittenExponent.startsWithout {mark rest : List Char} {exponent : Option (Bool × List Char)}
    (isExponent : WrittenExponent mark exponent) (stops : StartsWithout goesOn rest)
    : StartsWithout (fun c => c.isDigit || c == '.') (mark ++ rest) := by
  cases isExponent with
  | none =>
      refine stops.mono fun c other => ?_
      simp only [goesOn, Bool.or_eq_false_iff] at other
      exact Bool.or_eq_false_iff.mpr other.1.1
  | some isMark isSign isDigits =>
      refine startsWithout_cons ?_ _
      rcases isMark with rfl | rfl <;> rfl

/-- Behind the digits of the whole part stands the point, or something else that is no digit. -/
theorem WrittenFraction.startsWithout {point fraction rest : List Char}
    (isFraction : WrittenFraction point fraction)
    (stops : StartsWithout (fun c => c.isDigit || c == '.') rest)
    : StartsWithout Char.isDigit (point ++ rest) := by
  cases isFraction with
  | none => exact stops.mono fun c other => (Bool.or_eq_false_iff.mp other).1
  | some isDigits => exact startsWithout_cons rfl _

/-- The whole part of a number has no minus in front, so that a positive number is not read as a negative
one.
-/
theorem WrittenWhole.ne_minus {whole rest : List Char} (isWhole : WrittenWhole whole)
    (text : List Char)
    : whole ++ rest ≠ '-' :: text := by
  intro same
  cases isWhole with
  | zero => cases same
  | positive isDigits =>
      have digit := isDigits.2 _ List.mem_cons_self
      rw [(List.cons.inj same).1] at digit
      exact absurd digit (by decide)

/-- A number is read up to where it ends, if what is behind it could not belong to a number. -/
theorem numeral?_append {text rest : List Char} {numeral : Numeral}
    (isNumber : WrittenNumber text numeral) (stops : StartsWithout goesOn rest)
    : numeral? (text ++ rest) = some (numeral, rest) := by
  -- The parts are read one after another: none starts with what the one before it could go on with.
  unfold numeral?
  cases isNumber with
  | @positive whole point fraction mark exponent isWhole isFraction isExponent =>
      have stops' := isExponent.startsWithout stops
      have begun := wholePart?_append isWhole (isFraction.startsWithout stops')
      rw [List.append_assoc, List.append_assoc]
      split
      next same =>
        split at same
        next same' => exact absurd same' (isWhole.ne_minus _)
        next =>
          cases same
          simp [begun, fractionPart?_append isFraction stops', exponentPart?_append isExponent stops]
  | @negative whole point fraction mark exponent isWhole isFraction isExponent =>
      have stops' := isExponent.startsWithout stops
      have begun := wholePart?_append isWhole (isFraction.startsWithout stops')
      rw [List.cons_append, List.append_assoc, List.append_assoc]
      simp [begun, fractionPart?_append isFraction stops', exponentPart?_append isExponent stops]

-----------------------------------------------------------------------------------------
-- Strings
-----------------------------------------------------------------------------------------

/-- An escaped code unit is read as one unit, and the string goes on behind its four digits. -/
theorem CodeUnit.stringUnits_append {digits : List Char} {unit : Nat} (isUnit : CodeUnit digits unit)
    (rest : List Char)
    : stringUnits ('\\' :: 'u' :: digits ++ rest)
      = (stringUnits rest).map fun (units, rest) => (unit :: units, rest) := by
  cases isUnit with
  | @intro a b c d hex =>
      simp only [List.mem_cons, List.not_mem_nil, or_false, forall_eq_or_imp, forall_eq] at hex
      obtain ⟨isA, isB, isC, isD⟩ := hex
      obtain ⟨valueA, knownA⟩ := Option.isSome_iff_exists.mp isA
      obtain ⟨valueB, knownB⟩ := Option.isSome_iff_exists.mp isB
      obtain ⟨valueC, knownC⟩ := Option.isSome_iff_exists.mp isC
      obtain ⟨valueD, knownD⟩ := Option.isSome_iff_exists.mp isD
      have known : hexUnit? a b c d = some (natOfBase 16 [a, b, c, d]) := by
        simp only [hexUnit?, natOfBase, List.foldl_cons, List.foldl_nil, knownA, knownB, knownC,
          knownD, Option.getD_some, Nat.zero_mul, Nat.zero_add]
        rfl
      simp only [List.cons_append, List.nil_append]
      rw [stringUnits, known]
      cases stringUnits rest <;> rfl

/-- No character is a surrogate. -/
theorem not_surrogate (c : Char)
    : isHighSurrogate c.toNat = false ∧ isLowSurrogate c.toNat = false := by
  have valid : c.toNat < 0xD800 ∨ 0xDFFF < c.toNat ∧ c.toNat < 0x110000 := c.valid
  simp only [isHighSurrogate, isLowSurrogate, Bool.and_eq_false_iff, decide_eq_false_iff_not]
  omega

/-- The code of a character stands for this character, since no character is a surrogate. -/
theorem joinSurrogates_cons (c : Char) (units : List Nat)
    : joinSurrogates (c.toNat :: units) = (joinSurrogates units).map (c :: ·) := by
  have other := not_surrogate c
  cases units with
  | nil => simp [joinSurrogates, other]
  | cons unit units => simp [joinSurrogates, other]

/-- Two surrogates that follow one another are joined to the character that they encode. -/
theorem joinSurrogates_pair {high low : Nat} {c : Char} (isHigh : 0xD800 ≤ high ∧ high < 0xDC00)
    (isLow : 0xDC00 ≤ low ∧ low < 0xE000)
    (joined : c.toNat = 0x10000 + (high - 0xD800) * 0x400 + (low - 0xDC00)) (units : List Nat)
    : joinSurrogates (high :: low :: units) = (joinSurrogates units).map (c :: ·) := by
  have first : isHighSurrogate high = true := by simpa [isHighSurrogate] using isHigh
  have second : isLowSurrogate low = true := by simpa [isLowSurrogate] using isLow
  rw [joinSurrogates, if_pos first, if_pos second, ← joined, Char.ofNat_toNat]

/-- The letters of the grammar's short escapes are the reader's, and none of them starts an escaped code
unit.
-/
theorem simpleEscape?_of_mem
    : ∀ escape ∈ shortEscapes, simpleEscape? escape.1 = some escape.2 ∧ escape.1 ≠ 'u' := by
  decide

/-- A character is read as one code unit, or as two that are joined again. -/
theorem WrittenChar.exists_units {written : List Char} {c : Char} (isChar : WrittenChar written c)
    : ∃ units,
        (∀ rest,
          stringUnits (written ++ rest)
            = (stringUnits rest).map fun (others, rest) => (units ++ others, rest))
        ∧ ∀ others, joinSurrogates (units ++ others) = (joinSurrogates others).map (c :: ·) := by
  cases isChar with
  | plain visible notQuote notBackslash =>
      refine ⟨[c.toNat], fun rest => ?_, joinSurrogates_cons c⟩
      rw [List.singleton_append, stringUnits, if_neg (Char.not_lt.mpr visible)]
      · cases stringUnits rest <;> rfl
      · exact notQuote
      · exact fun _ _ _ _ _ same _ => notBackslash same
      · exact fun _ _ same _ => notBackslash same
  | @short letter c known =>
      refine ⟨[c.toNat], fun rest => ?_, joinSurrogates_cons c⟩
      have escape := simpleEscape?_of_mem _ known
      rw [List.cons_append, List.singleton_append, stringUnits, escape.1]
      · cases stringUnits rest <;> rfl
      · exact fun _ _ _ _ _ same _ => escape.2 same
  | unit isUnit => exact ⟨[c.toNat], isUnit.stringUnits_append, joinSurrogates_cons c⟩
  | @pair first second high low c isFirst isHigh isSecond isLow joined =>
      -- The two halves are read apart and joined once the whole string is read.
      refine ⟨[high, low], fun rest => ?_, joinSurrogates_pair isHigh isLow joined⟩
      rw [List.append_assoc, isFirst.stringUnits_append, isSecond.stringUnits_append]
      cases stringUnits rest <;> rfl

/-- What stands between quotes is read up to the second quote, by induction on the characters. -/
theorem WrittenString.exists_units {written text : List Char} (isString : WrittenString written text)
    (rest : List Char)
    : ∃ units,
        stringUnits (written ++ '"' :: rest) = some (units, rest)
        ∧ joinSurrogates units = some text := by
  induction isString with
  | nil => exact ⟨[], by simp [stringUnits], rfl⟩
  | cons isFirst isRest ih =>
      obtain ⟨others, known, joined⟩ := ih
      obtain ⟨units, first, join⟩ := isFirst.exists_units
      refine ⟨units ++ others, ?_, ?_⟩
      · rw [List.append_assoc, first, known]
        rfl
      · rw [join, joined]
        rfl

/-- The characters of a string are read up to its second quote, and what is behind the quote is left: the
code units are found first and joined afterwards.
-/
theorem WrittenString.stringBody?_append {written text : List Char}
    (isString : WrittenString written text) (rest : List Char)
    : stringBody? (written ++ '"' :: rest) = some (some (String.ofList text), rest) := by
  obtain ⟨units, known, joined⟩ := isString.exists_units rest
  unfold stringBody?
  rw [known, Option.map_some]
  dsimp only
  rw [joined, Option.map_some]

-----------------------------------------------------------------------------------------
-- Steps of the reader
-----------------------------------------------------------------------------------------

/-- Blanks in front of a value make no difference to its reader. -/
@[simp]
theorem value?_skipBlanks (steps : Nat) (text : List Char)
    : value? steps (skipBlanks text) = value? steps text := by
  cases steps with
  | zero => rfl
  | succ steps => simp only [value?, skipBlanks_skipBlanks]

/-- Blanks in front of array items make no difference to their reader. -/
@[simp]
theorem items?_skipBlanks (steps : Nat) (text : List Char)
    : items? steps (skipBlanks text) = items? steps text := by
  cases steps with
  | zero => rfl
  | succ steps => simp only [items?, value?_skipBlanks]

/-- Blanks in front of object members make no difference to their reader. -/
@[simp]
theorem members?_skipBlanks (steps : Nat) (text : List Char)
    : members? steps (skipBlanks text) = members? steps text := by
  cases steps with
  | zero => rfl
  | succ steps => simp only [members?, skipBlanks_skipBlanks]

/-- A bracket opens an array, whose reader looks for a closing bracket before it looks for items. -/
theorem value?_bracket (steps : Nat) (text : List Char)
    : value? (steps + 1) ('[' :: text)
      = match skipBlanks text with
        | ']' :: rest => some (.array [], rest)
        | rest => (items? steps rest).map fun (items, rest) => (.array items, rest) :=
  rfl

/-- A brace opens an object, whose reader looks for a closing brace before it looks for members. -/
theorem value?_brace (steps : Nat) (text : List Char)
    : value? (steps + 1) ('\x7b' :: text)
      = match skipBlanks text with
        | '\x7d' :: rest => some (.object [], rest)
        | rest => (members? steps rest).map fun (members, rest) => (.object members, rest) :=
  rfl

/-- An array that is not closed at once is read by its items. -/
theorem value?_array {text : List Char} (opens : ∀ rest, skipBlanks text ≠ ']' :: rest) (steps : Nat)
    : value? (steps + 1) ('[' :: text)
      = (items? steps text).map fun (items, rest) => (.array items, rest) := by
  rw [value?_bracket]
  split
  next rest same => exact absurd same (opens rest)
  next => rw [items?_skipBlanks]

/-- An object that is not closed at once is read by its members. -/
theorem value?_object {text : List Char} (opens : ∀ rest, skipBlanks text ≠ '\x7d' :: rest)
    (steps : Nat)
    : value? (steps + 1) ('\x7b' :: text)
      = (members? steps text).map fun (members, rest) => (.object members, rest) := by
  rw [value?_brace]
  split
  next rest same => exact absurd same (opens rest)
  next => rw [members?_skipBlanks]

/-- A number does not start with a blank. -/
theorem isBlank_of_numberStart {c : Char} (first : c = '-' ∨ c.isDigit = true)
    : isBlank c = false := by
  refine Bool.eq_false_iff.mpr fun blank => ?_
  have listed := isBlank_iff.mp blank
  simp only [List.mem_cons, List.not_mem_nil, or_false] at listed
  rcases listed with rfl | rfl | rfl | rfl <;> exact absurd first (by decide)

/-- A text that starts like a number is read as a number: no other value starts with a minus or a digit.
-/
theorem value?_number {c : Char} (first : c = '-' ∨ c.isDigit = true) (text : List Char)
    (steps : Nat)
    : value? (steps + 1) (c :: text)
      = (numeral? (c :: text)).map fun (numeral, rest) => (.number numeral, rest) := by
  rcases first with rfl | digit
  · rfl
  · rw [value?, skipBlanks_cons (isBlank_of_numberStart (.inr digit))]
    split
    case h_7 => rfl
    all_goals
      next same =>
        rw [(List.cons.inj same).1] at digit
        exact absurd digit (by decide)

/-- The last item of an array is read, with the bracket that closes the array behind it. -/
theorem items?_one {steps : Nat} {text left rest : List Char} {item : Source}
    (known : value? steps text = some (item, left)) (closed : skipBlanks left = ']' :: rest)
    : items? (steps + 1) text = some ([item], rest) := by
  rw [items?, known]
  simp [closed]

/-- An item with a comma behind it is read, and then the items behind the comma. -/
theorem items?_more {steps : Nat} {text left others rest : List Char} {item : Source}
    {items : List Source} (known : value? steps text = some (item, left))
    (comma : skipBlanks left = ',' :: others) (more : items? steps others = some (items, rest))
    : items? (steps + 1) text = some (item :: items, rest) := by
  rw [items?, known]
  simp [comma, more]

/-- A key, a colon and a value are read at the start of a text. -/
inductive ReadsMember (steps : Nat) (text : List Char) : Option String × Source → List Char → Prop where
  | intro {inside behind written left : List Char} {key : Option String} {source : Source}
    (quoted : skipBlanks text = '"' :: inside) (isKey : stringBody? inside = some (key, behind))
    (colon : skipBlanks behind = ':' :: written)
    (isValue : value? steps written = some (source, left))
    : ReadsMember steps text (key, source) left

/-- The last member of an object is read, with the brace that closes the object behind it. -/
theorem members?_one {steps : Nat} {text left rest : List Char} {member : Option String × Source}
    (known : ReadsMember steps text member left) (closed : skipBlanks left = '\x7d' :: rest)
    : members? (steps + 1) text = some ([member], rest) := by
  cases known with
  | intro quoted isKey colon isValue =>
      rw [members?, quoted]
      simp [isKey, colon, isValue, closed]

/-- A member with a comma behind it is read, and then the members behind the comma. -/
theorem members?_more {steps : Nat} {text left others rest : List Char}
    {member : Option String × Source} {members : List (Option String × Source)}
    (known : ReadsMember steps text member left) (comma : skipBlanks left = ',' :: others)
    (more : members? steps others = some (members, rest))
    : members? (steps + 1) text = some (member :: members, rest) := by
  cases known with
  | intro quoted isKey colon isValue =>
      rw [members?, quoted]
      simp [isKey, colon, isValue, comma, more]

-----------------------------------------------------------------------------------------
-- Values
-----------------------------------------------------------------------------------------

section

variable (number : Numeral → Option Json)

mutual

/-- The value that is read, with its numbers evaluated. All members of an object are kept. -/
def Source.meaning? : Source → Option Json
  | .null => some .null
  | .bool value => some (.bool value)
  | .number numeral => number numeral
  | .string text => text.map .string
  | .array items => (itemMeanings? items).map .array
  | .object members => (memberMeanings? members).map .object

/-- The values of array items. -/
def Source.itemMeanings? : List Source → Option (List Json)
  | [] => some []
  | item :: rest => do
    let item ← meaning? item
    let rest ← itemMeanings? rest
    return item :: rest

/-- The keys and values of object members. -/
def Source.memberMeanings? : List (Option String × Source) → Option (List (String × Json))
  | [] => some []
  | (key, value) :: rest => do
    let key ← key
    let value ← meaning? value
    let rest ← memberMeanings? rest
    return (key, value) :: rest

end

end

variable {number : Numeral → Option Json} {text written others : List Char} {value item : Json}
  {items : List Json} {member : String × Json} {members : List (String × Json)}

/-- The text is read as the value, with anything behind it that no number goes on with. -/
def ReadAs (number : Numeral → Option Json) (text : List Char) (value : Json) : Prop :=
  ∃ source : Source,
    source.meaning? number = some value
    ∧ ∀ steps rest,
        text.length ≤ steps
        → StartsWithout goesOn rest
        → value? steps (text ++ rest) = some (source, rest)

/-- The text is read as the value, up to some blanks at its end. -/
def PaddedReadAs (number : Numeral → Option Json) (text : List Char) (value : Json) : Prop :=
  ∃ (source : Source) (gap : List Char),
    source.meaning? number = some value
    ∧ Blanks gap
    ∧ ∀ steps rest,
        text.length ≤ steps
        → StartsWithout goesOn rest
        → value? steps (text ++ rest) = some (source, gap ++ rest)

/-- The text is read as array items. -/
def ItemsReadAs (number : Numeral → Option Json) (text : List Char) (items : List Json) : Prop :=
  ∃ sources : List Source,
    itemMeanings? number sources = some items
    ∧ ∀ steps rest,
        text.length < steps
        → items? steps (text ++ ']' :: rest) = some (sources, rest)

/-- The text is read as a key and a value, up to some blanks at its end. -/
def MemberReadAs (number : Numeral → Option Json) (text : List Char) (member : String × Json) : Prop :=
  ∃ (source : Source) (gap : List Char),
    source.meaning? number = some member.2
    ∧ Blanks gap
    ∧ ∀ steps rest,
        text.length ≤ steps
        → StartsWithout goesOn rest
        → ReadsMember steps (text ++ rest) (some member.1, source) (gap ++ rest)

/-- The text is read as object members. -/
def MembersReadAs (number : Numeral → Option Json) (text : List Char)
    (members : List (String × Json))
    : Prop :=
  ∃ sources : List (Option String × Source),
    memberMeanings? number sources = some members
    ∧ ∀ steps rest,
        text.length < steps
        → members? steps (text ++ '\x7d' :: rest) = some (sources, rest)

/-- A number starts with a minus or with a digit. -/
theorem WrittenNumber.starts {numeral : Numeral} (isNumber : WrittenNumber text numeral)
    : ∃ c rest, text = c :: rest ∧ (c = '-' ∨ c.isDigit = true) := by
  cases isNumber with
  | positive isWhole isFraction isExponent =>
      cases isWhole with
      | zero => exact ⟨_, _, rfl, .inr rfl⟩
      | positive isDigits => exact ⟨_, _, rfl, .inr (isDigits.2 _ List.mem_cons_self)⟩
  | negative => exact ⟨_, _, rfl, .inl rfl⟩

/-- A value starts with something else than a blank or a closing bracket. -/
theorem Written.starts (isValue : Written number text value)
    : ∃ c rest, text = c :: rest ∧ isBlank c = false ∧ c ≠ ']' := by
  cases isValue with
  | number isNumber =>
      obtain ⟨c, rest, rfl, first⟩ := isNumber.starts
      refine ⟨c, rest, rfl, isBlank_of_numberStart first, ?_⟩
      rintro rfl
      exact absurd first (by decide)
  | _ => exact ⟨_, _, rfl, rfl, by decide⟩

/-- No value closes the array in which it stands, since it starts with something else than a bracket. -/
theorem Denotes.opens (denotes : Denotes number text value) (behind rest : List Char)
    : skipBlanks (text ++ behind) ≠ ']' :: rest := by
  cases denotes with
  | intro blanksBefore isValue blanksAfter =>
      obtain ⟨c, others, rfl, visible, other⟩ := isValue.starts
      rw [List.append_assoc, List.append_assoc, List.cons_append, blanksBefore.skipBlanks_cons visible]
      exact fun same => other (List.cons.inj same).1

/-- The items of an array do not close it, since the first of them does not. -/
theorem WrittenItems.opens (isItems : WrittenItems number text items) (behind rest : List Char)
    : skipBlanks (text ++ behind) ≠ ']' :: rest := by
  cases isItems with
  | one isItem => exact isItem.opens behind rest
  | more isItem isItems =>
      rw [List.append_assoc]
      exact isItem.opens _ rest

/-- A member starts with a quote, once the blanks in front of it are skipped. -/
theorem WrittenMember.opens (isMember : WrittenMember number text member) (behind : List Char)
    : ∃ more, skipBlanks (text ++ behind) = '"' :: more := by
  cases isMember with
  | intro blanksBefore =>
      simp only [List.append_assoc, List.cons_append]
      exact ⟨_, blanksBefore.skipBlanks_cons rfl _⟩

/-- The members of an object do not close it, since the first of them starts with a quote. -/
theorem WrittenMembers.opens (isMembers : WrittenMembers number text members)
    (behind rest : List Char)
    : skipBlanks (text ++ behind) ≠ '\x7d' :: rest := by
  intro same
  cases isMembers with
  | one isMember =>
      obtain ⟨more, known⟩ := isMember.opens behind
      cases known.symm.trans same
  | @more written others member members isMember isMembers =>
      rw [List.append_assoc] at same
      obtain ⟨more, known⟩ := isMember.opens (',' :: others ++ behind)
      cases known.symm.trans same

/-- A number is read as what its parts come to. -/
theorem readAs_number {numeral : Numeral} (isNumber : WrittenNumber text numeral)
    (known : number numeral = some value)
    : ReadAs number text value := by
  obtain ⟨c, others, rfl, first⟩ := isNumber.starts
  refine ⟨.number numeral, known, fun
    | steps + 1, rest, _, stops => ?_⟩
  have read := numeral?_append isNumber stops
  rw [List.cons_append] at read ⊢
  rw [value?_number first, read]
  rfl

/-- A string is read as its characters, quotes left out. -/
theorem readAs_string {characters : List Char} (isString : WrittenString written characters)
    : ReadAs number ('"' :: written ++ ['"']) (.string (String.ofList characters)) := by
  refine ⟨.string (some (String.ofList characters)), rfl, fun
    | steps + 1, rest, _, _ => ?_⟩
  rw [List.append_assoc, List.cons_append, List.singleton_append]
  change (stringBody? (written ++ '"' :: rest)).map _ = _
  rw [isString.stringBody?_append]
  rfl

/-- Brackets with nothing but blanks between them are read as the empty array. -/
theorem readAs_emptyArray {gap : List Char} (blanks : Blanks gap)
    : ReadAs number ('[' :: gap ++ [']']) (.array []) := by
  refine ⟨.array [], rfl, fun
    | steps + 1, rest, _, _ => ?_⟩
  rw [List.append_assoc, List.cons_append, List.singleton_append, value?_bracket,
    blanks.skipBlanks_cons rfl]
  rfl

/-- Items in brackets are read as an array, with one step of the reader spent on the brackets. -/
theorem readAs_array (read : ItemsReadAs number written items)
    (opens : ∀ behind rest, skipBlanks (written ++ behind) ≠ ']' :: rest)
    : ReadAs number ('[' :: written ++ [']']) (.array items) := by
  obtain ⟨sources, meanings, reads⟩ := read
  refine ⟨.array sources, by rw [Source.meaning?, meanings]; rfl, fun
    | steps + 1, rest, enough, _ => ?_⟩
  simp only [List.length_append, List.length_cons, List.length_nil] at enough
  rw [List.append_assoc, List.cons_append, List.singleton_append,
    value?_array (opens (']' :: rest)), reads steps rest (by omega)]
  rfl

/-- Braces with nothing but blanks between them are read as the empty object. -/
theorem readAs_emptyObject {gap : List Char} (blanks : Blanks gap)
    : ReadAs number ('\x7b' :: gap ++ ['\x7d']) (.object []) := by
  refine ⟨.object [], rfl, fun
    | steps + 1, rest, _, _ => ?_⟩
  rw [List.append_assoc, List.cons_append, List.singleton_append, value?_brace,
    blanks.skipBlanks_cons rfl]
  rfl

/-- Members in braces are read as an object, with one step of the reader spent on the braces. -/
theorem readAs_object (read : MembersReadAs number written members)
    (opens : ∀ behind rest, skipBlanks (written ++ behind) ≠ '\x7d' :: rest)
    : ReadAs number ('\x7b' :: written ++ ['\x7d']) (.object members) := by
  obtain ⟨sources, meanings, reads⟩ := read
  refine ⟨.object sources, by rw [Source.meaning?, meanings]; rfl, fun
    | steps + 1, rest, enough, _ => ?_⟩
  simp only [List.length_append, List.length_cons, List.length_nil] at enough
  rw [List.append_assoc, List.cons_append, List.singleton_append,
    value?_object (opens ('\x7d' :: rest)), reads steps rest (by omega)]
  rfl

/-- A value with blanks around it is read up to the blanks behind it. -/
theorem paddedReadAs {before after : List Char} (blanksBefore : Blanks before)
    (read : ReadAs number written value) (blanksAfter : Blanks after)
    : PaddedReadAs number (before ++ written ++ after) value := by
  obtain ⟨source, meaning, reads⟩ := read
  -- The blanks in front are skipped by the reader of the value, those behind are left.
  refine ⟨source, after, meaning, blanksAfter, fun steps rest enough stops => ?_⟩
  simp only [List.length_append] at enough
  rw [List.append_assoc, List.append_assoc, ← value?_skipBlanks, blanksBefore.skipBlanks_append,
    value?_skipBlanks, reads steps _ (by omega) (blanksAfter.startsWithout stops)]

/-- A single item is read as the list of this item. The blanks behind it are skipped in front of the
bracket.
-/
theorem itemsReadAs_one (read : PaddedReadAs number written item)
    : ItemsReadAs number written [item] := by
  obtain ⟨source, gap, meaning, blanks, reads⟩ := read
  refine ⟨[source], by simp [itemMeanings?, meaning], fun
    | steps + 1, rest, enough => ?_⟩
  refine items?_one (reads steps _ (by omega) (startsWithout_cons rfl rest)) ?_
  exact blanks.skipBlanks_cons rfl _

/-- An item and further items behind a comma are read as one list. The text of each is shorter than the
whole, so the steps suffice for both.
-/
theorem itemsReadAs_more (read : PaddedReadAs number written item)
    (readOthers : ItemsReadAs number others items)
    : ItemsReadAs number (written ++ ',' :: others) (item :: items) := by
  obtain ⟨source, gap, meaning, blanks, reads⟩ := read
  obtain ⟨sources, meanings, more⟩ := readOthers
  refine ⟨source :: sources, by simp [itemMeanings?, meaning, meanings], fun
    | steps + 1, rest, enough => ?_⟩
  simp only [List.length_append, List.length_cons] at enough
  rw [List.append_assoc, List.cons_append]
  refine items?_more (reads steps _ (by omega) (startsWithout_cons rfl _)) ?_
    (more steps rest (by omega))
  exact blanks.skipBlanks_cons rfl _

/-- A key and a value are read as a member, with blanks around the key and around the value. -/
theorem memberReadAs {before key after characters : List Char} (blanksBefore : Blanks before)
    (isKey : WrittenString key characters) (blanksAfter : Blanks after)
    (read : PaddedReadAs number written value)
    : MemberReadAs number (before ++ '"' :: key ++ '"' :: after ++ ':' :: written)
        (String.ofList characters, value) := by
  obtain ⟨source, gap, meaning, blanks, reads⟩ := read
  refine ⟨source, gap, meaning, blanks, fun steps rest enough stops => ?_⟩
  simp only [List.length_append, List.length_cons] at enough
  simp only [List.append_assoc, List.cons_append]
  refine .intro ?_ (isKey.stringBody?_append (after ++ ':' :: (written ++ rest))) ?_
    (reads steps rest (by omega) stops)
  · exact blanksBefore.skipBlanks_cons rfl _
  · exact blanksAfter.skipBlanks_cons rfl _

/-- A single member is read as the list of this member. -/
theorem membersReadAs_one (read : MemberReadAs number written member)
    : MembersReadAs number written [member] := by
  obtain ⟨source, gap, meaning, blanks, reads⟩ := read
  refine ⟨[(some member.1, source)], by simp [memberMeanings?, meaning], fun
    | steps + 1, rest, enough => ?_⟩
  refine members?_one (reads steps _ (by omega) (startsWithout_cons rfl rest)) ?_
  exact blanks.skipBlanks_cons rfl _

/-- A member and further members behind a comma are read as one list, as items are. -/
theorem membersReadAs_more (read : MemberReadAs number written member)
    (readOthers : MembersReadAs number others members)
    : MembersReadAs number (written ++ ',' :: others) (member :: members) := by
  obtain ⟨source, gap, meaning, blanks, reads⟩ := read
  obtain ⟨sources, meanings, more⟩ := readOthers
  refine ⟨(some member.1, source) :: sources, by simp [memberMeanings?, meaning, meanings], fun
    | steps + 1, rest, enough => ?_⟩
  simp only [List.length_append, List.length_cons] at enough
  rw [List.append_assoc, List.cons_append]
  refine members?_more (reads steps _ (by omega) (startsWithout_cons rfl _)) ?_
    (more steps rest (by omega))
  exact blanks.skipBlanks_cons rfl _

-----------------------------------------------------------------------------------------
-- Texts
-----------------------------------------------------------------------------------------

mutual

/-- The reader reads what is written, by induction on the grammar. -/
theorem Written.readAs {text : List Char} {value : Json}
    : Written number text value → ReadAs number text value
  | .null => ⟨.null, rfl, fun
    | _ + 1, _, _, _ => rfl⟩
  | .yes => ⟨.bool true, rfl, fun
    | _ + 1, _, _, _ => rfl⟩
  | .no => ⟨.bool false, rfl, fun
    | _ + 1, _, _, _ => rfl⟩
  | .number isNumber known => readAs_number isNumber known
  | .string isString => readAs_string isString
  | .emptyArray blanks => readAs_emptyArray blanks
  | .array isItems => readAs_array isItems.readAs isItems.opens
  | .emptyObject blanks => readAs_emptyObject blanks
  | .object isMembers => readAs_object isMembers.readAs isMembers.opens

/-- The reader reads a value with blanks around it, from the value inside. -/
theorem Denotes.readAs {text : List Char} {value : Json}
    : Denotes number text value → PaddedReadAs number text value
  | .intro blanksBefore isValue blanksAfter => paddedReadAs blanksBefore isValue.readAs blanksAfter

/-- The reader reads array items, by induction on the commas between them. -/
theorem WrittenItems.readAs {text : List Char} {items : List Json}
    : WrittenItems number text items → ItemsReadAs number text items
  | .one isItem => itemsReadAs_one isItem.readAs
  | .more isItem isItems => itemsReadAs_more isItem.readAs isItems.readAs

/-- The reader reads an object member, from its value. -/
theorem WrittenMember.readAs {text : List Char} {member : String × Json}
    : WrittenMember number text member → MemberReadAs number text member
  | .intro blanksBefore isKey blanksAfter isValue =>
    memberReadAs blanksBefore isKey blanksAfter isValue.readAs

/-- The reader reads object members, by induction on the commas between them. -/
theorem WrittenMembers.readAs {text : List Char} {members : List (String × Json)}
    : WrittenMembers number text members → MembersReadAs number text members
  | .one isMember => membersReadAs_one isMember.readAs
  | .more isMember isMembers => membersReadAs_more isMember.readAs isMembers.readAs

end

/-- The value of a text, read with no limit to its nesting. -/
def read? (number : Numeral → Option Json) (text : String) : Option Json :=
  (ofText? text).bind (Source.meaning? number)

/-- A text that denotes a value is read as this value. There are more steps than characters, and nothing
but blanks is left behind the value.
-/
theorem read?_eq_some {text : String} {value : Json} (denotes : Denotes number text.toList value)
    : read? number text = some value := by
  obtain ⟨source, gap, meaning, blanks, reads⟩ := denotes.readAs
  -- There are more steps than characters, and nothing but blanks is left.
  have known := reads (text.toList.length + 1) [] (Nat.le_succ _) (startsWithout_nil _)
  have nothing : skipBlanks gap = [] := by
    simpa [skipBlanks] using blanks.skipBlanks_append []
  rw [List.append_nil, List.append_nil] at known
  unfold read? ofText?
  dsimp only
  rw [known]
  dsimp only
  rw [nothing]
  exact meaning

/-- A text denotes one value at most. -/
theorem Denotes.unique {text : String} {left right : Json} (first : Denotes number text.toList left)
    (second : Denotes number text.toList right)
    : left = right :=
  Option.some.inj ((read?_eq_some first).symm.trans (read?_eq_some second))

/-- The reader that takes no numbers conforms: it reads every text that denotes a value without numbers.
-/
theorem conforming_read? : Conforming (read? fun _ => none) :=
  fun _ _ denotes _ => read?_eq_some denotes

end Docpress.Json
