import Docpress.Markup.Html

/-!
A plain tokenizer of HTML text: tags with quoted attributes, and the text between them. It knows four
character references and neither comments nor any other syntax.
-/

namespace Docpress.Html

/-- What a tokenizer comes by in the text of a tree. -/
inductive Event where
  | startTag (name : String) (attrs : List (String × String))
  | endTag (name : String)
  | text (value : String)
  deriving Repr, DecidableEq

/-- The characters of element names and attribute keys. -/
def isNameChar (c : Char) : Bool :=
  c.isAlphanum || c == '-'

/-- Whether a string is the name of an element or the key of an attribute. -/
def isName (name : String) : Bool :=
  !name.toList.isEmpty && name.toList.all isNameChar

/-- The text with its character references replaced, each of them once. -/
def decode : List Char → List Char
  | '&' :: 'a' :: 'm' :: 'p' :: ';' :: rest => '&' :: decode rest
  | '&' :: 'l' :: 't' :: ';' :: rest => '<' :: decode rest
  | '&' :: 'g' :: 't' :: ';' :: rest => '>' :: decode rest
  | '&' :: 'q' :: 'u' :: 'o' :: 't' :: ';' :: rest => '"' :: decode rest
  | c :: rest => c :: decode rest
  | [] => []

/-- The name at the start of a text, and the text behind it. -/
def readName? (text : List Char) : Option (String × List Char) :=
  let name := text.takeWhile isNameChar
  if name.isEmpty then none else some (String.ofList name, text.dropWhile isNameChar)

/-- What is left after dropping characters is no longer than the text. -/
theorem length_dropWhile_le (p : Char → Bool) (text : List Char)
    : (text.dropWhile p).length ≤ text.length :=
  (List.dropWhile_sublist p).length_le

/-- What stands behind a name is no longer than the text. -/
theorem length_readName? {text rest : List Char} {name : String}
    (found : readName? text = some (name, rest))
    : rest.length ≤ text.length := by
  simp only [readName?] at found
  split at found
  · cases found
  · cases found
    exact length_dropWhile_le isNameChar text

/-- One attribute with its value in quotes, and the text behind it. -/
def readAttribute? (text : List Char) : Option ((String × String) × List Char) :=
  match readName? text with
  | some (key, '=' :: '"' :: quoted) =>
    match quoted.dropWhile (· != '"') with
    | '"' :: behind =>
      some ((key, String.ofList (decode (quoted.takeWhile (· != '"')))), behind)
    | _ => none
  | _ => none

/-- What stands behind an attribute is no longer than the text. -/
theorem length_readAttribute? {text behind : List Char} {attr : String × String}
    (found : readAttribute? text = some (attr, behind))
    : behind.length ≤ text.length := by
  unfold readAttribute? at found
  split at found
  next key quoted named =>
    have name := length_readName? named
    have value := length_dropWhile_le (· != '"') quoted
    split at found
    next closed =>
      cases found
      rw [closed] at value
      simp only [List.length_cons] at name value
      omega
    next => cases found
  next => cases found

/-- The attributes up to the end of a tag, each after a blank, and the text behind it. -/
def readAttributes? (text : List Char) : Option (List (String × String) × List Char) :=
  match text with
  | '>' :: behind => some ([], behind)
  | ' ' :: rest =>
    match _ : readAttribute? rest with
    | some (attr, more) =>
      (readAttributes? more).map fun (attrs, behind) => (attr :: attrs, behind)
    | none => none
  | _ => none
termination_by text.length
decreasing_by exact Nat.lt_succ_of_le (length_readAttribute? ‹_›)

/-- Attributes are read one by one, each after a blank. -/
theorem readAttributes?_cons {rest more behind : List Char} {attr : String × String}
    {attrs : List (String × String)}
    (first : readAttribute? rest = some (attr, more))
    (later : readAttributes? more = some (attrs, behind))
    : readAttributes? (' ' :: rest) = some (attr :: attrs, behind) := by
  rw [readAttributes?]
  split
  next found =>
    rw [first] at found
    cases found
    rw [later]
    rfl
  next found =>
    rw [first] at found
    cases found

/-- What stands behind the attributes is no longer than the text, by induction along their reader. -/
theorem length_readAttributes? {text behind : List Char} {attrs : List (String × String)}
    (found : readAttributes? text = some (attrs, behind))
    : behind.length ≤ text.length := by
  induction text using readAttributes?.induct generalizing attrs behind with
  | case1 behind =>
      rw [readAttributes?] at found
      cases found
      exact Nat.le_succ _
  | case2 rest attr more first ih =>
      rw [readAttributes?] at found
      split at found
      next again =>
        rw [first] at again
        cases again
        -- An attribute takes at least the blank in front of it.
        obtain ⟨⟨later, _⟩, known, same⟩ := Option.map_eq_some_iff.mp found
        cases same
        exact Nat.le_succ_of_le (Nat.le_trans (ih known) (length_readAttribute? first))
      next => cases found
  | case3 rest none_ =>
      rw [readAttributes?] at found
      split at found
      next again =>
        rw [none_] at again
        cases again
      next => cases found
  | case4 text noEnd noBlank =>
      rw [readAttributes?] at found
      · cases found
      · exact noEnd
      · exact noBlank

/-- The tag behind an opening angle bracket, and the text behind the tag. -/
def readTag? (text : List Char) : Option (Event × List Char) :=
  match text with
  | '/' :: rest =>
    match readName? rest with
    | some (name, '>' :: behind) => some (.endTag name, behind)
    | _ => none
  | rest =>
    match readName? rest with
    | some (name, rest) =>
      (readAttributes? rest).map fun (attrs, behind) => (.startTag name attrs, behind)
    | none => none

/-- No name starts with a slash, so what starts with a name is no end tag. -/
theorem readTag?_startTag {text rest behind : List Char} {name : String}
    {attrs : List (String × String)}
    (named : readName? text = some (name, rest))
    (found : readAttributes? rest = some (attrs, behind))
    : readTag? text = some (.startTag name attrs, behind) := by
  unfold readTag?
  split
  next => cases named
  next =>
    simp only [named, found]
    rfl

/-- What stands behind a tag is no longer than the text, so that scanning comes to an end. -/
theorem length_readTag? {text behind : List Char} {event : Event}
    (found : readTag? text = some (event, behind))
    : behind.length ≤ text.length := by
  unfold readTag? at found
  split at found
  · split at found
    next named =>
      cases found
      have name := length_readName? named
      simp only [List.length_cons] at name ⊢
      omega
    next => cases found
  · split at found
    next named =>
      obtain ⟨⟨attrs, _⟩, known, same⟩ := Option.map_eq_some_iff.mp found
      cases same
      exact Nat.le_trans (length_readAttributes? known) (length_readName? named)
    next => cases found

/-- The events of a text, unless it is ill-formed. Text runs up to the next tag. -/
def scan? (text : List Char) : Option (List Event) :=
  match text with
  | [] => some []
  | '<' :: rest =>
    match _ : readTag? rest with
    | some (event, behind) => (scan? behind).map (event :: ·)
    | none => none
  | c :: rest =>
    (scan? (rest.dropWhile (· != '<'))).map
      (.text (String.ofList (decode (c :: rest.takeWhile (· != '<')))) :: ·)
termination_by text.length
decreasing_by
  · exact Nat.lt_succ_of_le (length_readTag? ‹_›)
  · exact Nat.lt_succ_of_le (length_dropWhile_le _ rest)

/-- An opening angle bracket starts a tag, and what is behind the tag is scanned next. -/
theorem scan?_tag {rest behind : List Char} {event : Event}
    (tag : readTag? rest = some (event, behind))
    : scan? ('<' :: rest) = (scan? behind).map (event :: ·) := by
  rw [scan?]
  split
  next found =>
    rw [tag] at found
    cases found
    rfl
  next found =>
    rw [tag] at found
    cases found

/-- A text is ill-formed where an opening angle bracket starts no tag. -/
theorem scan?_of_no_tag {rest : List Char} (noTag : readTag? rest = none)
    : scan? ('<' :: rest) = none := by
  rw [scan?]
  split
  next found =>
    rw [noTag] at found
    cases found
  next => rfl

/-- Anything else than an opening angle bracket starts a text, which runs up to the next one. -/
theorem scan?_text {c : Char} (other : c ≠ '<') (rest : List Char)
    : scan? (c :: rest)
      = (scan? (rest.dropWhile (· != '<'))).map
          (.text (String.ofList (decode (c :: rest.takeWhile (· != '<')))) :: ·) := by
  rw [scan?]
  exact other

end Docpress.Html
