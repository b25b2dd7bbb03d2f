import Docpress.Highlight

/-!
The standard highlighter. Grammars and style sheets come from a library, which is a parameter: the
highlighter tells it which grammar and which theme a name stands for, and passes its failures on.
-/

namespace Docpress

/-- A grammar: its name and the file extensions it is for. -/
structure Grammar where
  name : String
  extensions : List String
  deriving Repr, DecidableEq

/-- A library of grammars and style sheets. Nothing is assumed of what it makes, and it may fail with a
message wherever it makes something.
-/
class SyntaxLibrary where
  /-- All grammars. -/
  grammars : List Grammar
  /-- The grammar of plain text. -/
  plainText : Grammar
  /-- The grammar for files with an extension. -/
  findByExtension? : (extension : String) → Option Grammar
  /-- The grammar that a token stands for, which is an extension or a name. -/
  find? : (token : String) → Option Grammar
  /-- The markup of code under a grammar. -/
  markup : Grammar → (code : String) → Except String String
  /-- The style sheet of a theme, which is given by the name that it is listed under. -/
  styles : (theme : String) → Except String String

namespace StandardHighlighter

/-- The themes that go by exactly these names. -/
def exactThemes : List String :=
  ["InspiredGitHub", "Solarized (dark)", "Solarized (light)", "base16-eighties.dark",
    "base16-mocha.dark", "base16-ocean.dark", "base16-ocean.light"]

/-- The themes that go by these names up to the case of ASCII letters. -/
def embeddedThemes : List String :=
  ["Ansi", "Base16", "Base16EightiesDark", "Base16MochaDark", "Base16OceanDark", "Base16OceanLight",
    "Base16_256", "ColdarkCold", "ColdarkDark", "DarkNeon", "Dracula", "Github", "GruvboxDark",
    "GruvboxLight", "InspiredGithub", "Leet", "MonokaiExtended", "MonokaiExtendedBright",
    "MonokaiExtendedLight", "MonokaiExtendedOrigin", "Nord", "OneHalfDark", "OneHalfLight",
    "SolarizedDark", "SolarizedLight", "SublimeSnazzy", "TwoDark", "VisualStudioDarkPlus",
    "Zenburn"]

/-- All theme names, in code point order. -/
def themes : List String :=
  (exactThemes ++ embeddedThemes).mergeSort (fun left right => left ≤ right)

/-- Whether a theme goes by the name. -/
def hasTheme (theme : String) : Bool :=
  exactThemes.contains theme ||
    embeddedThemes.any fun known => Text.eqIgnoringAsciiCase known theme

/-- The listed name of the theme that a name stands for. -/
def findTheme? (theme : String) : Option String :=
  if exactThemes.contains theme then some theme
  else embeddedThemes.find? fun known => Text.eqIgnoringAsciiCase known theme

section

variable [library : SyntaxLibrary]

/-- The markup of code in a language, under the grammar of plain text if there is none for it. -/
def highlight (code language : String) : Except HighlightError String :=
  (library.markup ((library.find? language).getD library.plainText) code).mapError
    (.tokenizer language)

/-- The style sheet of a theme. -/
def stylesheet (theme : String) : Except HighlightError String :=
  match findTheme? theme with
  | some listed => (library.styles listed).mapError (.stylesheet theme)
  | none => .error (.themeNotFound theme)

end

end StandardHighlighter

section

variable [library : SyntaxLibrary]

/-- The standard highlighter. -/
def standardHighlighter : Highlighter where
  name := "Syntect"
  languages := library.grammars.flatMap fun grammar =>
    (grammar.name :: grammar.extensions).map Text.lowercaseString
  themes := StandardHighlighter.themes
  supports := fun language =>
    HighlightManager.plainLanguages.contains language || (library.find? language).isSome
  hasTheme := StandardHighlighter.hasTheme
  highlight := StandardHighlighter.highlight
  stylesheet := StandardHighlighter.stylesheet
  languageOfExtension? := fun extension =>
    (library.findByExtension? extension).map fun grammar => Text.lowercaseString grammar.name

/-- The standard highlighter with the standard settings. -/
def standardManager : HighlightManager where
  highlighter := standardHighlighter
  config := { defaultTheme := some "InspiredGitHub" }

end

end Docpress
