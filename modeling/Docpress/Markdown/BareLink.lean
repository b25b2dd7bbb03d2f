import Docpress.Text.PunctuationTable
import Docpress.Text.WhiteSpace

/-!
Links that are written without brackets: web addresses that start with `www.` or a scheme, and mail
addresses, all of them in plain text; and addresses between angle brackets.
-/

namespace Docpress.Markdown.BareLink

open Text

/-- Whether a character of Unicode is punctuation or a symbol. -/
def isPunctuation (c : Char) : Bool :=
  inRanges punctuationRanges c

/-- Whether a host name may hold the character, dots, hyphens and underscores apart. -/
def isHostChar (c : Char) : Bool :=
  !isWhiteSpace c && !isPunctuation c

/-- How the parts of a host name look so far: its dots, and the underscores in its last part and in
the part before that.
-/
structure HostScan where
  dots : Nat := 0
  earlier : Nat := 0
  last : Nat := 0

/-- How many dots make underscores in the last two parts of a host name acceptable. -/
def manyDots : Nat := 10

/-- Whether a text starts with a host name. Only a short one does without a dot, and the last two
parts must not hold underscores.
-/
def startsHost (short : Bool) (scan : HostScan) : List Char → Bool
  | [] =>
    if 0 < scan.earlier + scan.last && scan.dots ≤ manyDots then false
    else short || 0 < scan.dots
  | c :: rest =>
    if c == '\\' && !rest.isEmpty then startsHost short scan rest
    else if c == '_' then startsHost short { scan with last := scan.last + 1 } rest
    else if c == '.' then
      startsHost short { dots := scan.dots + 1, earlier := scan.last, last := 0 } rest
    else if isHostChar c || c == '-' then startsHost short scan rest
    else scan.earlier + scan.last == 0 && (short || 0 < scan.dots)

/-- Whether a link does not end with the character. -/
def isTrailing (c : Char) : Bool :=
  "?!.,:*_~'\"[]".toList.contains c

/-- The reversed text without what does not belong to a link at its end: marks, what looks like a
character reference, and parentheses that close more than are open.
-/
def trimReversed (reversed : List Char) : List Char :=
  match reversed with
  | [] => []
  | c :: rest =>
    if isTrailing c then
      trimReversed rest
    else if c == ';' then
      match rest.dropWhile Char.isAlpha with
      | '&' :: before =>
        if before.length + 1 < rest.length then trimReversed before else trimReversed rest
      | _ => trimReversed rest
    else if c == ')' && reversed.count '(' < reversed.count ')' then
      trimReversed rest
    else
      reversed
termination_by reversed.length
decreasing_by all_goals simp; try omega

/-- The text of a link that starts here. -/
def linkText (text : List Char) : List Char :=
  let upToMarkup := (text.takeWhile (!isAsciiBlank ·)).takeWhile (· != '<')
  (trimReversed upToMarkup.reverse).reverse

/-- Whether a web address may start behind a character. -/
def mayPrecedeWww (before : List Char) : Bool :=
  match before with
  | [] => true
  | c :: _ => isAsciiBlank c || "*_~([".toList.contains c

/-- The text of a link that starts with `www.`, given the reversed text before it. -/
def www? (before text : List Char) : Option (List Char) :=
  if mayPrecedeWww before && "www.".toList.isPrefixOf text && startsHost false {} text then
    some (linkText text)
  else
    none

/-- The schemes of web addresses. -/
def schemes : List String := ["http", "https", "ftp"]

/-- The scheme of a link and its text from the colon on, given the reversed text before the colon. -/
def schemed? (before text : List Char) : Option (List Char × List Char) :=
  let scheme := (before.takeWhile Char.isAlpha).reverse
  match text with
  | ':' :: '/' :: '/' :: host =>
    if !host.isEmpty && schemes.contains (String.ofList scheme) && startsHost true {} host then
      some (scheme, linkText text)
    else
      none
  | _ => none

/-- Whether a mail address may hold the character before the at sign. -/
def isMailboxChar (c : Char) : Bool :=
  c.isAlphanum || c == '.' || c == '+' || c == '-' || c == '_'

/-- The part of a mail address before the at sign. -/
structure Mailbox where
  chars : List Char
  /-- The protocol that is written in front of it. -/
  protocol : Option String := none

/-- The mailbox at the end of a reversed text. -/
def mailbox (box : Mailbox) : List Char → Mailbox
  | [] => box
  | c :: before =>
    if isMailboxChar c then
      mailbox { box with chars := c :: box.chars } before
    else if c == ':' then
      let protocol := String.ofList (before.takeWhile Char.isAlpha).reverse
      if protocol == "mailto" || protocol == "xmpp" then
        mailbox { chars := c :: box.chars, protocol := some protocol } before
      else
        box
    else
      box

/-- The part of a mail address behind the at sign, and whether it holds a dot between other parts. A
second at sign makes it no address.
-/
def mailHost? (slashes : Bool) : List Char → Option (List Char × Bool)
  | [] => some ([], false)
  | c :: rest =>
    if c == '@' then none
    else if c == '.' && rest.head?.any Char.isAlphanum then
      (mailHost? slashes rest).map fun (host, _) => (c :: host, true)
    else if c.isAlphanum || c == '-' || c == '_' || (slashes && c == '/') then
      (mailHost? slashes rest).map fun (host, dotted) => (c :: host, dotted)
    else
      some ([], false)

/-- The target and the text of a mail address around an at sign, given the reversed text before the
sign and the text behind it, and the text behind the address.
-/
def mail? (before after : List Char) : Option (List Char × List Char × List Char) := do
  let box := mailbox { chars := [] } before
  if box.chars.isEmpty then none
  let (host, dotted) ← mailHost? (box.protocol == some "xmpp") after
  if !dotted || !(host.getLast?.any fun c => c.isAlpha || c == '.') then none
  let domain := (trimReversed ('@' :: host).reverse).reverse
  if domain.isEmpty then none
  let address := box.chars ++ domain
  let target := if box.protocol.isSome then address else "mailto:".toList ++ address
  return (target, address, after.drop (domain.length - 1))

/-- Whether a scheme may hold the character. -/
def isSchemeChar (c : Char) : Bool :=
  c.isAlphanum || c == '.' || c == '+' || c == '-'

/-- The address between angle brackets after the opening one, and the text behind the closing one. -/
def angleAddress? (text : List Char) : Option (List Char × List Char) :=
  let scheme := text.takeWhile isSchemeChar
  match text.drop scheme.length with
  | ':' :: rest =>
    let path := rest.takeWhile fun c => ' ' < c && c != '<' && c != '>'
    match rest.drop path.length with
    | '>' :: after =>
      if scheme.head?.any Char.isAlpha && 2 ≤ scheme.length && scheme.length ≤ 32 then
        some (scheme ++ ':' :: path, after)
      else
        none
    | _ => none
  | _ => none

/-- Whether a mail address between angle brackets may hold the character before the at sign. -/
def isAngleMailboxChar (c : Char) : Bool :=
  c.isAlphanum || ".!#$%&'*+/=?^_\x60\x7b|\x7d~-".toList.contains c

/-- Whether a text is a part of a host name in a mail address. -/
def isHostLabel (label : List Char) : Bool :=
  label.head?.any Char.isAlphanum && label.getLast?.any Char.isAlphanum && label.length ≤ 63
    && label.all fun c => c.isAlphanum || c == '-'

/-- The parts of a text between dots. -/
def splitDots (part : List Char) : List Char → List (List Char)
  | [] => [part.reverse]
  | c :: rest => if c == '.' then part.reverse :: splitDots [] rest else splitDots (c :: part) rest

/-- The mail address between angle brackets after the opening one, and the text behind the closing
one.
-/
def angleMail? (text : List Char) : Option (List Char × List Char) :=
  let box := text.takeWhile isAngleMailboxChar
  match text.drop box.length with
  | '@' :: rest =>
    let host := rest.takeWhile (· != '>')
    match rest.drop host.length with
    | '>' :: after =>
      if !box.isEmpty && (splitDots [] host).all isHostLabel then some (box ++ '@' :: host, after)
      else none
    | _ => none
  | _ => none

end Docpress.Markdown.BareLink
