import Docpress.Proofs.Html.Tokenizer

/-!
Written HTML read back. A tree without trusted markup becomes the events of its elements and texts,
and tokenizing what is written for it gives exactly these events.
-/

namespace Docpress

namespace Html

-----------------------------------------------------------------------------------------
-- Escaped characters are decoded one by one
-----------------------------------------------------------------------------------------

/-- A character that is escaped for a text is decoded to itself, by cases on the character. -/
theorem decode_escapeTextChar (c : Char) (rest : List Char)
    : decode (escapeTextChar c ++ rest) = c :: decode rest := by
  unfold escapeTextChar
  split
  next same => rw [beq_iff_eq.mp same]; rfl
  next notAmpersand =>
    split
    next same => rw [beq_iff_eq.mp same]; rfl
    next =>
      split
      next same => rw [beq_iff_eq.mp same]; rfl
      next =>
        have plain : c ≠ '&' := fun same => notAmpersand (beq_iff_eq.mpr same)
        rw [List.singleton_append, decode] <;>
          exact fun _ same => absurd same plain

/-- A character that is escaped for a value is decoded to itself, by cases on the character. -/
theorem decode_escapeValueChar (c : Char) (rest : List Char)
    : decode (escapeValueChar c ++ rest) = c :: decode rest := by
  unfold escapeValueChar
  split
  next same => rw [beq_iff_eq.mp same]; rfl
  next => exact decode_escapeTextChar c rest

/-- If one character is decoded as it was, then all are, whatever follows them. -/
theorem decode_flatMap {escape : Char → List Char}
    (single : ∀ c rest, decode (escape c ++ rest) = c :: decode rest) (text rest : List Char)
    : decode (text.flatMap escape ++ rest) = text ++ decode rest := by
  induction text with
  | nil => rfl
  | cons c text ih => rw [List.flatMap_cons, List.append_assoc, single, ih, List.cons_append]

/-- No tag starts in an escaped text. -/
theorem ne_open_of_mem_escapeTextChar {original c : Char}
    (member : c ∈ escapeTextChar original)
    : (c != '<') = true := by
  unfold escapeTextChar at member
  split at member
  · exact List.all_eq_true.mp (by decide : "&amp;".toList.all (· != '<') = true) c member
  · split at member
    · exact List.all_eq_true.mp (by decide : "&lt;".toList.all (· != '<') = true) c member
    next notOpen =>
      split at member
      · exact List.all_eq_true.mp (by decide : "&gt;".toList.all (· != '<') = true) c member
      · rw [List.mem_singleton.mp member, bne_iff_ne]
        exact fun same => notOpen (beq_iff_eq.mpr same)

/-- No quote ends an escaped value before its end. -/
theorem ne_quote_of_mem_escapeValueChar {original c : Char}
    (member : c ∈ escapeValueChar original)
    : (c != '"') = true := by
  unfold escapeValueChar escapeTextChar at member
  split at member
  · exact List.all_eq_true.mp (by decide : "&quot;".toList.all (· != '"') = true) c member
  next notQuote =>
    split at member
    · exact List.all_eq_true.mp (by decide : "&amp;".toList.all (· != '"') = true) c member
    · split at member
      · exact List.all_eq_true.mp (by decide : "&lt;".toList.all (· != '"') = true) c member
      · split at member
        · exact List.all_eq_true.mp (by decide : "&gt;".toList.all (· != '"') = true) c member
        · rw [List.mem_singleton.mp member, bne_iff_ne]
          exact fun same => notQuote (beq_iff_eq.mpr same)

/-- Escaped text holds no character that starts a tag. -/
theorem ne_open_of_mem_escaped (text : List Char)
    : ∀ c ∈ text.flatMap escapeTextChar, (c != '<') = true := by
  intro c member
  obtain ⟨original, _, inside⟩ := List.mem_flatMap.mp member
  exact ne_open_of_mem_escapeTextChar inside

/-- An escaped value holds no quote. -/
theorem ne_quote_of_mem_escaped (value : List Char)
    : ∀ c ∈ value.flatMap escapeValueChar, (c != '"') = true := by
  intro c member
  obtain ⟨original, _, inside⟩ := List.mem_flatMap.mp member
  exact ne_quote_of_mem_escapeValueChar inside

-----------------------------------------------------------------------------------------
-- Tags are read back
-----------------------------------------------------------------------------------------

/-- A name is read as it is written, up to a character that belongs to no name. -/
theorem readName?_append {name : String} (valid : isName name = true) (rest : List Char)
    (stop : ∀ c ∈ rest.head?, isNameChar c = false)
    : readName? (name.toList ++ rest) = some (name, rest) := by
  simp only [isName, Bool.and_eq_true, Bool.not_eq_true', List.all_eq_true] at valid
  obtain ⟨nonempty, all⟩ := valid
  have ends : rest.takeWhile isNameChar = [] ∧ rest.dropWhile isNameChar = rest := by
    cases rest with
    | nil => exact ⟨rfl, rfl⟩
    | cons c rest =>
        have other := stop c rfl
        exact ⟨List.takeWhile_cons_of_neg (by simp [other]),
          List.dropWhile_cons_of_neg (by simp [other])⟩
  simp only [readName?, List.takeWhile_append_of_pos all, List.dropWhile_append_of_pos all, ends,
    List.append_nil, nonempty, Bool.false_eq_true, if_false, String.ofList_toList]

/-- The characters of an attribute as they are written. -/
def attributeChars (attr : String × String) : List Char :=
  ' ' :: (attr.1.toList ++ '=' :: '"' :: (attr.2.toList.flatMap escapeValueChar ++ ['"']))

/-- An attribute is read as it is written, since its value is decoded and has no quotes inside. -/
theorem readAttribute?_append {attr : String × String} (valid : isName attr.1 = true)
    (rest : List Char)
    : readAttribute?
        (attr.1.toList ++ '=' :: '"' :: (attr.2.toList.flatMap escapeValueChar ++ '"' :: rest))
      = some (attr, rest) := by
  have named := readName?_append valid
    ('=' :: '"' :: (attr.2.toList.flatMap escapeValueChar ++ '"' :: rest))
    (by intro c first; cases first; decide)
  have decoded : decode (attr.2.toList.flatMap escapeValueChar) = attr.2.toList := by
    have whole := decode_flatMap decode_escapeValueChar attr.2.toList []
    rwa [List.append_nil, decode, List.append_nil] at whole
  have escaped := ne_quote_of_mem_escaped attr.2.toList
  simp only [readAttribute?, named, List.takeWhile_append_of_pos escaped,
    List.dropWhile_append_of_pos escaped]
  rw [List.dropWhile_cons_of_neg (by simp), List.takeWhile_cons_of_neg (by simp)]
  simp only [List.append_nil, decoded, String.ofList_toList]

/-- Written attributes are read back in order, by induction on their list. -/
theorem readAttributes?_append {attrs : List (String × String)}
    (valid : ∀ attr ∈ attrs, isName attr.1 = true) (rest : List Char)
    : readAttributes? (attrs.flatMap attributeChars ++ '>' :: rest) = some (attrs, rest) := by
  induction attrs with
  | nil => rw [List.flatMap_nil, List.nil_append, readAttributes?]
  | cons attr attrs ih =>
      obtain ⟨here, later⟩ := List.forall_mem_cons.mp valid
      rw [List.flatMap_cons, attributeChars]
      simp only [List.cons_append, List.append_assoc, List.nil_append]
      exact readAttributes?_cons (readAttribute?_append here _) (ih later)

-----------------------------------------------------------------------------------------
-- Events are read back one by one
-----------------------------------------------------------------------------------------

namespace Event

/-- The characters that an event is written as. -/
def chars : Event → List Char
  | .startTag name attrs => '<' :: (name.toList ++ (attrs.flatMap attributeChars ++ ['>']))
  | .endTag name => '<' :: '/' :: (name.toList ++ ['>'])
  | .text value => value.toList.flatMap escapeTextChar

/-- Whether all names in an event can be written without quotes. -/
def named : Event → Bool
  | .startTag name attrs => isName name && attrs.all (isName ·.1)
  | .endTag name => isName name
  | .text _ => true

/-- An event in front of others, none of which are texts side by side. Text joins the text behind it,
and leaves no trace if it is empty.
-/
def prepend (event : Event) (events : List Event) : List Event :=
  match event, events with
  | .text value, .text more :: rest => .text (value ++ more) :: rest
  | .text value, events => if value.isEmpty then events else .text value :: events
  | event, events => event :: events

end Event

/-- An empty text in front of events leaves no trace. -/
theorem Event.prepend_empty (events : List Event) : (Event.text "").prepend events = events := by
  cases events with
  | nil => rfl
  | cons event events =>
      cases event with
      | text more => rw [prepend, String.empty_append]
      | startTag name attrs => rfl
      | endTag name => rfl

/-- Tags do not join text. -/
theorem Event.prepend_text_of_tag {rest behind : List Char} {event : Event}
    (tag : readTag? rest = some (event, behind)) {value : String} (nonempty : value ≠ "")
    (events : List Event)
    : (Event.text value).prepend (event :: events) = .text value :: event :: events := by
  cases event with
  | text more =>
      unfold readTag? at tag
      split at tag
      · split at tag <;> cases tag
      · split at tag
        · obtain ⟨_, _, same⟩ := Option.map_eq_some_iff.mp tag
          cases same
        · cases tag
  | startTag name attrs => simp only [prepend, String.isEmpty_iff, nonempty, if_false]
  | endTag name => simp only [prepend, String.isEmpty_iff, nonempty, if_false]

/-- Text that is read in front of anything joins the text there, and nothing but text. -/
theorem scan?_text_append (value : String) (rest : List Char)
    : scan? ((Event.text value).chars ++ rest) = (scan? rest).map (Event.text value).prepend := by
  have escaped := ne_open_of_mem_escaped value.toList
  have decoded := decode_flatMap decode_escapeTextChar value.toList (rest.takeWhile (· != '<'))
  rw [Event.chars]
  cases written : value.toList.flatMap escapeTextChar with
  | nil =>
      have empty : value = "" := by
        have nothing := decode_flatMap decode_escapeTextChar value.toList []
        rw [written, List.nil_append, decode, List.append_nil] at nothing
        exact String.toList_eq_nil_iff.mp nothing.symm
      have same : (Event.text value).prepend = id := by
        rw [empty]
        exact funext Event.prepend_empty
      rw [same, Option.map_id, id, List.nil_append]
  | cons c chars =>
      rw [written] at escaped decoded
      obtain ⟨first, others⟩ := List.forall_mem_cons.mp escaped
      have nonempty : value ≠ "" := by
        rintro rfl
        cases written
      rw [List.cons_append, scan?_text (bne_iff_ne.mp first),
        List.takeWhile_append_of_pos others, List.dropWhile_append_of_pos others,
        ← List.cons_append, decoded, String.ofList_append, String.ofList_toList]
      -- Only what follows up to the next tag joins the text: nothing if a tag comes next.
      cases rest with
      | nil =>
          simp only [List.takeWhile_nil, List.dropWhile_nil, decode, scan?, Option.map_some,
            Event.prepend, String.isEmpty_iff, nonempty, if_false, String.ofList_nil,
            String.append_empty]
      | cons d rest =>
          by_cases opens : d = '<'
          · subst opens
            rw [List.takeWhile_cons_of_neg (by simp), List.dropWhile_cons_of_neg (by simp)]
            cases tag : readTag? rest with
            | none => rw [scan?_of_no_tag tag, Option.map_none, Option.map_none]
            | some found =>
                rw [scan?_tag tag, Option.map_map, Option.map_map]
                refine Option.map_congr fun events _ => ?_
                simp only [Function.comp, Event.prepend_text_of_tag tag nonempty, decode,
                  String.ofList_nil, String.append_empty]
          · have plain : (d != '<') = true := bne_iff_ne.mpr opens
            rw [List.takeWhile_cons_of_pos (p := (· != '<')) plain,
              List.dropWhile_cons_of_pos (p := (· != '<')) plain, scan?_text opens,
              Option.map_map]
            rfl

/-- One written event is read back, whatever follows it. -/
theorem scan?_append {event : Event} (named : event.named = true) (rest : List Char)
    : scan? (event.chars ++ rest) = (scan? rest).map event.prepend := by
  cases event with
  | text value => exact scan?_text_append value rest
  | endTag name =>
      have found := readName?_append named ('>' :: rest)
        (by intro c first; cases first; decide)
      have tag : readTag? ('/' :: (name.toList ++ '>' :: rest)) = some (.endTag name, rest) := by
        simp only [readTag?, found]
      simp only [Event.chars, List.cons_append, List.append_assoc, List.nil_append]
      exact scan?_tag tag
  | startTag name attrs =>
      simp only [Event.named, Bool.and_eq_true, List.all_eq_true] at named
      obtain ⟨valid, keys⟩ := named
      have found := readName?_append valid (attrs.flatMap attributeChars ++ '>' :: rest)
        (by cases attrs <;> (intro c first; cases first; decide))
      have tag := readTag?_startTag found (readAttributes?_append keys rest)
      simp only [Event.chars, List.cons_append, List.append_assoc, List.nil_append]
      exact scan?_tag tag

/-- Events in a row are read back joined, by induction on the row. -/
theorem scan?_flatMap_chars {events : List Event} (named : ∀ event ∈ events, event.named = true)
    : scan? (events.flatMap Event.chars) = some (events.foldr Event.prepend []) := by
  induction events with
  | nil => rw [List.flatMap_nil, scan?, List.foldr_nil]
  | cons event events ih =>
      obtain ⟨here, later⟩ := List.forall_mem_cons.mp named
      rw [List.flatMap_cons, scan?_append here, ih later, Option.map_some, List.foldr_cons]

end Html

-----------------------------------------------------------------------------------------
-- Trees and their events
-----------------------------------------------------------------------------------------

/-- The attribute by which a link says that the site follows it. -/
def Tag.marker : Tag → List (String × String)
  | .navLink => [("data-nav", "internal")]
  | .html _ => []

namespace Markup

open Html

mutual

/-- What a tree is made of, each of its texts by itself. Trusted markup has no part in it. -/
def parts : Markup → List Event
  | .text value => [.text value]
  | .trusted _ => []
  | .fragment children => partsAll children
  | .element tag attrs children =>
    .startTag tag.name (tag.marker ++ attrs.entries)
      :: if voidNames.contains tag.name then [] else partsAll children ++ [.endTag tag.name]

/-- What trees in a row are made of. -/
def partsAll : List Markup → List Event
  | [] => []
  | child :: rest => parts child ++ partsAll rest

end

/-- The events of a tree: a start tag for each element, what is inside, and an end tag unless the
element is void. Texts side by side are one text, and an empty text is none.
-/
def events (markup : Markup) : List Event :=
  markup.parts.foldr Event.prepend []

mutual

/-- Whether a tree holds no trusted markup, and all names in it can be written without quotes. -/
def isPlain : Markup → Bool
  | .text _ => true
  | .trusted _ => false
  | .fragment children => isPlainAll children
  | .element tag attrs children =>
    isName tag.name && attrs.entries.all (isName ·.1) && isPlainAll children

/-- Whether this holds for trees in a row. -/
def isPlainAll : List Markup → Bool
  | [] => true
  | child :: rest => isPlain child && isPlainAll rest

end

/-- The characters of a written attribute. -/
theorem toList_writeAttribute (attr : String × String)
    : (writeAttribute attr).toList = attributeChars attr := by
  simp [writeAttribute, escapeValue, attributeChars]

/-- A start tag is written as its event, with the marker of a navigation link in front of its attributes.
-/
theorem toList_startTag (tag : Tag) (attrs : Attributes)
    : (startTag tag attrs).toList
      = (Event.startTag tag.name (tag.marker ++ attrs.entries)).chars := by
  have written : (String.join (attrs.entries.map writeAttribute)).toList
      = attrs.entries.flatMap attributeChars := by
    rw [String.toList_join, List.flatMap_map]
    exact congrArg attrs.entries.flatMap (funext toList_writeAttribute)
  have marker : attributeChars ("data-nav", "internal") = " data-nav=\"internal\"".toList := by
    decide
  cases tag with
  | html name =>
      simp [startTag, Event.chars, Tag.marker, Tag.name, written]
  | navLink =>
      simp [startTag, Event.chars, Tag.marker, Tag.name, written, marker]

/-- An end tag is written as its event. -/
theorem toList_endTag (tag : Tag) : (endTag tag).toList = (Event.endTag tag.name).chars := by
  simp [endTag, Event.chars]

mutual

/-- A tree is written as its parts one after another. -/
theorem toList_toHtml {markup : Markup} (plain : markup.isPlain = true)
    : markup.toHtml.toList = markup.parts.flatMap Event.chars := by
  cases markup with
  | text value =>
      rw [toHtml, escapeText, String.toList_ofList, parts, List.flatMap_singleton]
      rfl
  | trusted markup => cases plain
  | fragment children => exact toList_listToHtml plain
  | element tag attrs children =>
      simp only [isPlain, Bool.and_eq_true] at plain
      simp only [toHtml, parts]
      split
      · rw [List.flatMap_singleton, toList_startTag]
      · rw [List.flatMap_cons, List.flatMap_append, List.flatMap_singleton, String.toList_append,
          String.toList_append, toList_startTag, toList_endTag, toList_listToHtml plain.2,
          List.append_assoc]

/-- Trees in a row are written as their parts, one after another. -/
theorem toList_listToHtml {children : List Markup} (plain : isPlainAll children = true)
    : (listToHtml children).toList = (partsAll children).flatMap Event.chars := by
  cases children with
  | nil => rfl
  | cons child rest =>
      obtain ⟨here, later⟩ := Bool.and_eq_true_iff.mp plain
      rw [listToHtml, String.toList_append, toList_toHtml here, toList_listToHtml later,
        partsAll, List.flatMap_append]

end

mutual

/-- All names among the parts of a plain tree can be written without quotes, by induction on the tree. -/
theorem named_parts {markup : Markup} (plain : markup.isPlain = true)
    : ∀ event ∈ markup.parts, event.named = true := by
  cases markup with
  | text value => exact List.forall_mem_singleton.mpr rfl
  | trusted markup => cases plain
  | fragment children => exact named_partsAll plain
  | element tag attrs children =>
      simp only [isPlain, Bool.and_eq_true] at plain
      obtain ⟨⟨name, keys⟩, below⟩ := plain
      have start : (Event.startTag tag.name (tag.marker ++ attrs.entries)).named = true := by
        rw [Event.named, name, List.all_append, keys]
        cases tag with
        | html name => rfl
        | navLink => decide
      refine List.forall_mem_cons.mpr ⟨start, ?_⟩
      split
      · exact fun _ member => nomatch member
      · exact List.forall_mem_append.mpr
          ⟨named_partsAll below, List.forall_mem_singleton.mpr name⟩

/-- All names among the parts of plain trees in a row can be written without quotes. -/
theorem named_partsAll {children : List Markup} (plain : isPlainAll children = true)
    : ∀ event ∈ partsAll children, event.named = true := by
  cases children with
  | nil => exact fun _ member => nomatch member
  | cons child rest =>
      obtain ⟨here, later⟩ := Bool.and_eq_true_iff.mp plain
      exact List.forall_mem_append.mpr ⟨named_parts here, named_partsAll later⟩

end

/-- A tokenizer reads back exactly the events of a plain tree from what is written for it. -/
theorem scan_toHtml {markup : Markup} (plain : markup.isPlain = true)
    : scan? markup.toHtml.toList = some markup.events := by
  rw [toList_toHtml plain]
  exact scan?_flatMap_chars (named_parts plain)

/-- A tree with text that looks escaped, quotes in a value, texts side by side and a void element that
has children.
-/
def escapeSample : Markup :=
  .fragment
    [.text "&lt;", .fragment [.text "", .text "b>"],
      .element .navLink (Attributes.empty.set "title" "\"&\"") [.text ""],
      .elem "br" .empty [.text "lost"]]

/-- A tree that tries all sorts of escapes is scanned as what it is. -/
theorem scan_toHtml_sample
    : escapeSample.isPlain = true
      ∧ scan? escapeSample.toHtml.toList
        = some
          [.text "&lt;b>", .startTag "a" [("data-nav", "internal"), ("title", "\"&\"")],
            .endTag "a", .startTag "br" []] := by
  have plain : escapeSample.isPlain = true := by decide +kernel
  refine ⟨plain, (scan_toHtml plain).trans ?_⟩
  decide +kernel

end Markup

end Docpress
