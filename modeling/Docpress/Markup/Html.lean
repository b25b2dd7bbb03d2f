import Docpress.Markup

/-!
The HTML text of an output tree. Text escapes `&`, `<` and `>`; attribute values escape the double
quote as well.
-/

namespace Docpress

namespace Html

/-- The elements that have neither content nor an end tag. -/
def voidNames : List String :=
  ["br", "hr", "img", "input", "wbr"]

/-- A character of text as it is written. -/
def escapeTextChar (c : Char) : List Char :=
  if c == '&' then "&amp;".toList
  else if c == '<' then "&lt;".toList
  else if c == '>' then "&gt;".toList
  else [c]

/-- A character of an attribute value as it is written. -/
def escapeValueChar (c : Char) : List Char :=
  if c == '"' then "&quot;".toList else escapeTextChar c

/-- Text with its markup characters escaped. -/
def escapeText (text : String) : String :=
  String.ofList (text.toList.flatMap escapeTextChar)

/-- An attribute value with its markup characters and quotes escaped. -/
def escapeValue (value : String) : String :=
  String.ofList (value.toList.flatMap escapeValueChar)

/-- One attribute, with the blank before it. -/
def writeAttribute (entry : String × String) : String :=
  " " ++ entry.1 ++ "=\"" ++ escapeValue entry.2 ++ "\""

/-- The start tag of an element. A navigation link says so in an attribute of its own. -/
def startTag (tag : Tag) (attrs : Attributes) : String :=
  let marker := match tag with
    | .navLink => " data-nav=\"internal\""
    | .html _ => ""
  "<" ++ tag.name ++ marker ++ String.join (attrs.entries.map writeAttribute) ++ ">"

/-- The end tag of an element. -/
def endTag (tag : Tag) : String :=
  "</" ++ tag.name ++ ">"

end Html

mutual

/-- The HTML text of an output tree. -/
def Markup.toHtml : Markup → String
  | .text value => Html.escapeText value
  | .trusted markup => markup
  | .fragment children => Markup.listToHtml children
  | .element tag attrs children =>
    let start := Html.startTag tag attrs
    if Html.voidNames.contains tag.name then start
    else start ++ Markup.listToHtml children ++ Html.endTag tag

/-- The HTML texts of a list of output trees, one after another. -/
def Markup.listToHtml : List Markup → String
  | [] => ""
  | child :: rest => child.toHtml ++ Markup.listToHtml rest

end

end Docpress
