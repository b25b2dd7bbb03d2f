/-!
Character classes given as ranges of code points, and Unicode's White_Space among them.
A text is trimmed and split at White_Space, which is wider than the ASCII blanks.
-/

namespace Docpress.Text

/-- Whether the code point of `c` lies in one of the inclusive `ranges`. -/
def inRanges (ranges : List (Nat × Nat)) (c : Char) : Bool :=
  ranges.any fun range => range.1 ≤ c.toNat && c.toNat ≤ range.2

/-- The code points with the White_Space property. -/
def whiteSpaceRanges : List (Nat × Nat) :=
  [(0x09, 0x0D), (0x20, 0x20), (0x85, 0x85), (0xA0, 0xA0), (0x1680, 0x1680), (0x2000, 0x200A),
    (0x2028, 0x2029), (0x202F, 0x202F), (0x205F, 0x205F), (0x3000, 0x3000)]

/-- Unicode White_Space. The zero-width space and the byte order mark are not in it. -/
def isWhiteSpace (c : Char) : Bool :=
  inRanges whiteSpaceRanges c

/-- The text without the characters of a class at its two ends. -/
def trimBy (p : Char → Bool) (text : List Char) : List Char :=
  ((text.dropWhile p).reverse.dropWhile p).reverse

/-- The text without the characters of a class at its end. -/
def trimEndBy (p : Char → Bool) (text : List Char) : List Char :=
  (text.reverse.dropWhile p).reverse

/-- The text without White_Space at its two ends. -/
def trim (text : List Char) : List Char :=
  trimBy isWhiteSpace text

/-- The first run of characters outside White_Space, if there is one. -/
def firstWord? (text : List Char) : Option (List Char) :=
  match (text.dropWhile isWhiteSpace).takeWhile (!isWhiteSpace ·) with
  | [] => none
  | word => some word

/-- Turns every run of White_Space into one `mark`. `inRun` holds right after White_Space. -/
def squeezeBlanks (mark : Char) : (inRun : Bool) → List Char → List Char
  | _, [] => []
  | inRun, c :: rest =>
    if isWhiteSpace c then
      if inRun then squeezeBlanks mark true rest else mark :: squeezeBlanks mark true rest
    else
      c :: squeezeBlanks mark false rest

/-- The ASCII blanks: space, tab, line feed, vertical tab, form feed and carriage return. -/
def isAsciiBlank (c : Char) : Bool :=
  c == ' ' || ('\t' ≤ c && c ≤ '\r')

/-- Space or tab, the blanks that do not end a line. -/
def isSpaceOrTab (c : Char) : Bool :=
  c == ' ' || c == '\t'

/-- The ASCII characters that are neither letters nor digits nor blanks nor controls. -/
def isAsciiPunctuation (c : Char) : Bool :=
  ('!' ≤ c && c ≤ '/') || (':' ≤ c && c ≤ '@') || ('[' ≤ c && c ≤ '\x60') || ('\x7b' ≤ c && c ≤ '~')

/-- The ASCII control characters. -/
def isControl (c : Char) : Bool :=
  c < ' ' || c == '\x7f'

/-- An upper-case ASCII letter in lower case; any other character as it is. -/
def asciiLower (c : Char) : Char :=
  if 'A' ≤ c && c ≤ 'Z' then Char.ofNat (c.toNat + 32) else c

/-- Whether two texts agree up to the case of ASCII letters. -/
def eqIgnoringAsciiCase (left right : String) : Bool :=
  left.toList.map asciiLower == right.toList.map asciiLower

end Docpress.Text
