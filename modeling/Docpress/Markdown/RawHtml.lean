import Docpress.Text.WhiteSpace

/-!
Markup that an author writes in a document: tags, comments and the like within a line, and the kinds
of blocks that they start. Each reader gets the text after `<` and returns the text behind the markup.
-/

namespace Docpress.Markdown.RawHtml

open Text

/-- Reads the name of a tag. -/
def tagName? : List Char → Option (List Char)
  | c :: rest => if c.isAlpha then some (rest.dropWhile fun c => c.isAlphanum || c == '-') else none
  | [] => none

/-- Reads the name of an attribute. -/
def attributeName? : List Char → Option (List Char)
  | c :: rest =>
    if c.isAlpha || c == '_' || c == ':' then
      some (rest.dropWhile fun c => c.isAlphanum || c == ':' || c == '.' || c == '_' || c == '-')
    else
      none
  | [] => none

/-- Whether an attribute value without quotes may hold the character. -/
def isUnquoted (c : Char) : Bool :=
  !(isAsciiBlank c || c == '"' || c == '\'' || c == '=' || c == '<' || c == '>' || c == '\x60')

/-- Reads up to a closing quote and past it. -/
def closeQuote? (quote : Char) (text : List Char) : Option (List Char) :=
  match text.dropWhile (· != quote) with
  | _ :: rest => some rest
  | [] => none

/-- Reads an attribute value. -/
def attributeValue? : List Char → Option (List Char)
  | '"' :: rest => closeQuote? '"' rest
  | '\'' :: rest => closeQuote? '\'' rest
  | c :: rest => if isUnquoted c then some (rest.dropWhile isUnquoted) else none
  | [] => none

/-- Reads an equals sign and a value, if there is an equals sign. -/
def attributeValueSpec? (text : List Char) : Option (List Char) :=
  match text.dropWhile isAsciiBlank with
  | '=' :: rest => attributeValue? (rest.dropWhile isAsciiBlank)
  | _ => some text

/-- Reads the attributes of a start tag and its end. Every attribute takes at least one character, so
that as many steps as the text has characters are enough.
-/
def attributes? : (steps : Nat) → List Char → Option (List Char)
  | 0, _ => none
  | steps + 1, text =>
    match text.dropWhile isAsciiBlank with
    | '>' :: rest => some rest
    | '/' :: '>' :: rest => some rest
    | content =>
      if content.length < text.length then do
        let rest ← attributeName? content
        let rest ← attributeValueSpec? rest
        attributes? steps rest
      else
        none

/-- Reads a start tag or an end tag. -/
def tag? : List Char → Option (List Char)
  | '/' :: rest => do
    match (← tagName? rest).dropWhile isAsciiBlank with
    | '>' :: rest => return rest
    | _ => none
  | text => do
    let rest ← tagName? text
    attributes? (rest.length + 1) rest

/-- Reads past the first two marks that a `>` follows. Two marks that are followed by anything else
take that character with them, and so does a single mark.
-/
def closePair? (mark : Char) : List Char → Option (List Char)
  | x :: y :: z :: rest =>
    if x != mark then closePair? mark (y :: z :: rest)
    else if y != mark then closePair? mark (z :: rest)
    else if z == '>' then some rest
    else closePair? mark rest
  | _ => none

/-- Reads the rest of a comment. -/
def comment? : List Char → Option (List Char)
  | '>' :: rest => some rest
  | '-' :: '>' :: rest => some rest
  | text => closePair? '-' text

/-- Reads the rest of a processing instruction. -/
def instruction? : List Char → Option (List Char)
  | '?' :: '>' :: rest => some rest
  | '?' :: _ :: rest => instruction? rest
  | _ :: rest => instruction? rest
  | [] => none

/-- Reads a declaration such as a document type. -/
def declaration? : List Char → Option (List Char)
  | c :: rest => if c.isAlpha then closeQuote? '>' rest else none
  | [] => none

/-- Reads any markup that may stand within a line. -/
def inline? : List Char → Option (List Char)
  | '!' :: '-' :: '-' :: rest => comment? rest
  | '!' :: '[' :: 'C' :: 'D' :: 'A' :: 'T' :: 'A' :: '[' :: rest => closePair? ']' rest
  | '!' :: rest => declaration? rest
  | '?' :: rest => instruction? rest
  | text => tag? text

/-- The kinds of blocks that markup starts. -/
inductive BlockKind where
  /-- An element whose content is no markup, such as a script. -/
  | literal
  | comment
  | instruction
  | declaration
  | cdata
  /-- A tag of an element that holds blocks. -/
  | container
  /-- Any other tag alone on its line. -/
  | loneTag
  deriving Repr, DecidableEq, Inhabited

/-- The elements whose content is no markup. -/
def literalNames : List String := ["script", "pre", "textarea", "style"]

/-- The elements that hold blocks. -/
def containerNames : List String :=
  ["address", "article", "aside", "base", "basefont", "blockquote", "body", "caption", "center",
    "col", "colgroup", "dd", "details", "dialog", "dir", "div", "dl", "dt", "fieldset",
    "figcaption", "figure", "footer", "form", "frame", "frameset", "h1", "h2", "h3", "h4", "h5",
    "h6", "head", "header", "hr", "html", "iframe", "legend", "li", "link", "main", "menu",
    "menuitem", "nav", "noframes", "ol", "optgroup", "option", "p", "param", "search", "section",
    "summary", "table", "tbody", "td", "tfoot", "th", "thead", "title", "tr", "track", "ul"]

/-- The name at the start of a text in lower case, and the text behind it. -/
def spanName (text : List Char) : String × List Char :=
  (String.ofList ((text.takeWhile Char.isAlphanum).map asciiLower), text.dropWhile Char.isAlphanum)

/-- Whether a name ends here: at the end of the line, a blank or `>`. -/
def endsName : List Char → Bool
  | [] => true
  | c :: _ => isAsciiBlank c || c == '>'

/-- Whether the text after `<` starts a literal element. -/
def startsLiteral (text : List Char) : Bool :=
  let (name, rest) := spanName text
  literalNames.contains name && endsName rest

/-- Whether the text after `<` starts or ends an element that holds blocks. -/
def startsContainer (text : List Char) : Bool :=
  let tag := match text with
    | '/' :: rest => rest
    | _ => text
  let (name, rest) := spanName tag
  let closed := match rest with
    | '/' :: '>' :: _ => true
    | rest => endsName rest
  containerNames.contains name && closed

/-- Whether a tag is all that the line holds. -/
def isLoneTag (text : List Char) : Bool :=
  match tag? text with
  | some rest => rest.all isAsciiBlank
  | none => false

/-- The kind of block that the content of a line starts. A lone tag cannot follow a line of a
paragraph.
-/
def blockKind? (inParagraph : Bool) : List Char → Option BlockKind
  | '<' :: rest =>
    match rest with
    | '!' :: '-' :: '-' :: _ => some .comment
    | '?' :: _ => some .instruction
    | '!' :: '[' :: 'C' :: 'D' :: 'A' :: 'T' :: 'A' :: '[' :: _ => some .cdata
    | '!' :: c :: _ => if c.isAlpha then some .declaration else none
    | _ =>
      if startsLiteral rest then some .literal
      else if startsContainer rest then some .container
      else if !inParagraph && isLoneTag rest then some .loneTag
      else none
  | _ => none

/-- Whether a test holds of some end of the text. -/
def anySuffix (p : List Char → Bool) : List Char → Bool
  | [] => p []
  | c :: rest => p (c :: rest) || anySuffix p rest

/-- Whether the text starts with the end tag of a literal element. -/
def closesLiteral : List Char → Bool
  | '<' :: '/' :: rest =>
    let (name, rest) := spanName rest
    literalNames.contains name && rest.head? == some '>'
  | _ => false

/-- Whether a block of this kind ends with a line of the given content. -/
def endsBlock (kind : BlockKind) (content : List Char) : Bool :=
  match kind with
  | .literal => anySuffix closesLiteral content
  | .comment => anySuffix ("-->".toList.isPrefixOf ·) content
  | .instruction => anySuffix ("?>".toList.isPrefixOf ·) content
  | .declaration => content.contains '>'
  | .cdata => anySuffix ("]]>".toList.isPrefixOf ·) content
  | .container | .loneTag => false

/-- Whether a blank line ends a block of this kind. -/
def endsAtBlank : BlockKind → Bool
  | .container | .loneTag => true
  | .literal | .comment | .instruction | .declaration | .cdata => false

end Docpress.Markdown.RawHtml
