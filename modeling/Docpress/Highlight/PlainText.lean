import Docpress.Highlight.Standard

/-!
A library of grammars and style sheets that the program runs with where no other is at hand. It has the
names of many grammars but the rules of plain text only, so it gives all code the markup of plain text, and
its style sheets have one rule.
-/

namespace Docpress

namespace PlainTextLibrary

/-- The grammars that it has the names of, in the order in which they are tried. -/
def grammars : List Grammar :=
  [⟨"Rust", ["rs"]⟩,
    ⟨"TypeScript", ["ts", "mts", "cts"]⟩,
    ⟨"TypeScriptReact", ["tsx"]⟩,
    ⟨"TOML", ["toml", "tml"]⟩,
    ⟨"JavaScript (Babel)", ["js", "mjs", "jsx", "babel", "es6", "cjs"]⟩,
    ⟨"JavaScript", ["htc"]⟩,
    ⟨"Python", ["py", "py3", "pyw", "pyi", "pyx", "rpy", "cpy"]⟩,
    ⟨"Ruby", ["rb", "rbx", "rjs", "gemspec", "podspec", "rake", "ru"]⟩,
    ⟨"Bourne Again Shell (bash)", ["sh", "bash", "zsh", "ash", "fish"]⟩,
    ⟨"YAML", ["yaml", "yml"]⟩,
    ⟨"Markdown", ["md", "mdown", "markdown", "markdn"]⟩,
    ⟨"JSON", ["json"]⟩,
    ⟨"HTML", ["html", "htm", "shtml", "xhtml"]⟩,
    ⟨"CSS", ["css"]⟩,
    ⟨"C", ["c", "h"]⟩,
    ⟨"C++", ["cpp", "cc", "cxx", "c++", "hpp", "hh", "hxx", "h++"]⟩,
    ⟨"C#", ["cs", "csx"]⟩,
    ⟨"Go", ["go"]⟩,
    ⟨"Haskell", ["hs"]⟩,
    ⟨"Java", ["java", "bsh"]⟩,
    ⟨"Kotlin", ["kt", "kts"]⟩,
    ⟨"Lua", ["lua"]⟩,
    ⟨"PHP", ["php", "phtml"]⟩,
    ⟨"Perl", ["pl", "pm", "pod", "t"]⟩,
    ⟨"SQL", ["sql", "ddl", "dml"]⟩,
    ⟨"Swift", ["swift"]⟩,
    ⟨"XML", ["xml", "xsd", "xslt", "svg"]⟩,
    ⟨"Plain Text", ["txt"]⟩]

/-- The grammar for files with an extension, up to the case of ASCII letters. -/
def findByExtension? (extension : String) : Option Grammar :=
  grammars.find? fun grammar =>
    grammar.extensions.any fun known => Text.eqIgnoringAsciiCase known extension

/-- The grammar with an extension or else a name, up to the case of ASCII letters. -/
def find? (language : String) : Option Grammar :=
  findByExtension? language <|>
    grammars.find? fun grammar => Text.eqIgnoringAsciiCase grammar.name language

/-- A character of code as it is written. -/
def escapeCodeChar (c : Char) : List Char :=
  if c == '&' then "&amp;".toList
  else if c == '<' then "&lt;".toList
  else if c == '>' then "&gt;".toList
  else if c == '"' then "&quot;".toList
  else if c == '\'' then "&#39;".toList
  else [c]

/-- The markup of plain text: one span, or nothing for no text. -/
def plainMarkup (code : String) : String :=
  if code.isEmpty then ""
  else
    "<span class=\"hl-text hl-plain\">" ++ String.ofList (code.toList.flatMap escapeCodeChar)
      ++ "</span>"

/-- A style sheet of one rule, for plain text. -/
def styles (theme : String) : String :=
  "/* " ++ theme ++ " */\n.hl-plain \x7b\n  color: inherit;\n\x7d\n"

end PlainTextLibrary

instance plainTextLibrary : SyntaxLibrary where
  grammars := PlainTextLibrary.grammars
  plainText := ⟨"Plain Text", ["txt"]⟩
  findByExtension? := PlainTextLibrary.findByExtension?
  find? := PlainTextLibrary.find?
  markup := fun _ code => .ok (PlainTextLibrary.plainMarkup code)
  styles := fun theme => .ok (PlainTextLibrary.styles theme)

end Docpress
