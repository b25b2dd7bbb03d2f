import Docpress.Text.Lowercase

/-!
Code highlighting: what a highlighter offers, and a manager that resolves language names for it.
-/

namespace Docpress

/-- What goes wrong when code is highlighted or a style sheet is made. -/
inductive HighlightError where
  | unsupportedLanguage (language : String)
  | themeNotFound (theme : String)
  | tokenizer (language message : String)
  | stylesheet (theme message : String)
  | noHighlighter
  deriving Repr, DecidableEq

/-- The text of a highlighting error. -/
def HighlightError.message : HighlightError → String
  | .unsupportedLanguage language => "No syntax definition for language '" ++ language ++ "'"
  | .themeNotFound theme => "Theme '" ++ theme ++ "' is not available"
  | .tokenizer language message =>
    "Tokenizer failed on " ++ language ++ " code: " ++ message
  | .stylesheet theme message =>
    "Could not build stylesheet for theme '" ++ theme ++ "': " ++ message
  | .noHighlighter =>
    "No syntax highlighting backend available. Enable the 'syntect' feature or turn off "
      ++ "code highlighting."

/-- A highlighter. The markup it makes is written as it stands, so it must escape the code. -/
structure Highlighter where
  name : String
  /-- The languages it has grammars for. -/
  languages : List String
  /-- The themes it has style sheets for. -/
  themes : List String
  /-- Whether it has a grammar for a language. -/
  supports : String → Bool := fun language =>
    languages.any fun known => Text.eqIgnoringAsciiCase known language
  /-- Whether it has a style sheet for a theme. -/
  hasTheme : String → Bool := fun theme =>
    themes.any fun known => Text.eqIgnoringAsciiCase known theme
  /-- The markup of code in a language. -/
  highlight : (code language : String) → Except HighlightError String
  /-- The style sheet of a theme. -/
  stylesheet : (theme : String) → Except HighlightError String
  /-- The language of files with an extension. -/
  languageOfExtension? : (extension : String) → Option String

/-- The settings of a highlight manager. -/
structure HighlightConfig where
  /-- The theme of style sheets that are asked for without one. -/
  defaultTheme : Option String := none
  /-- The language of code that names none. -/
  defaultLanguage : Option String := some "javascript"
  /-- The languages that further names stand for. -/
  aliases : List (String × String) :=
    [("js", "javascript"), ("jsx", "javascript"), ("mjs", "javascript"), ("ts", "typescript"),
      ("tsx", "typescript"), ("py", "python"), ("rb", "ruby"), ("rs", "rust"), ("sh", "bash"),
      ("shell", "bash"), ("zsh", "bash"), ("yml", "yaml"), ("md", "markdown"), ("mdx", "markdown")]
  /-- Whether code in an unsupported language is treated as plain text. -/
  fallbackToPlain : Bool := true
  deriving Repr, DecidableEq, Inhabited

namespace HighlightConfig

/-- Lets a name stand for a language. -/
def addAlias (config : HighlightConfig) (name language : String) : HighlightConfig :=
  if config.aliases.any (·.1 == name) then
    { config with
      aliases := config.aliases.map fun entry =>
        if entry.1 == name then (name, language) else entry }
  else
    { config with aliases := config.aliases ++ [(name, language)] }

/-- The language that a name stands for: its alias's, or the name in lower case. -/
def resolve (config : HighlightConfig) (language : String) : String :=
  let lowered := Text.lowercaseString language
  (config.aliases.lookup lowered).getD lowered

end HighlightConfig

/-- A highlighter with settings. -/
structure HighlightManager where
  highlighter : Highlighter
  config : HighlightConfig := {}

namespace HighlightManager

/-- The languages that stand for plain text, in the order in which they are tried. -/
def plainLanguages : List String := ["text", "plain", "plaintext"]

/-- The markup of code in a language, or in the default language if it names none. An unsupported
language falls back to plain text, if the settings say so and the highlighter has a grammar for it.
-/
def highlight (manager : HighlightManager) (code : String) (language : Option String)
    : Except HighlightError String :=
  let requested := (language <|> manager.config.defaultLanguage).getD "text"
  let resolved := manager.config.resolve requested
  if manager.highlighter.supports resolved then
    manager.highlighter.highlight code resolved
  else
    let plain :=
      if manager.config.fallbackToPlain then plainLanguages.find? manager.highlighter.supports
      else none
    match plain with
    | some plain => manager.highlighter.highlight code plain
    | none => .error (.unsupportedLanguage resolved)

/-- The style sheet of a theme, or of the default theme if none is asked for. -/
def stylesheet (manager : HighlightManager) (theme : Option String)
    : Except HighlightError String :=
  match theme <|> manager.config.defaultTheme with
  | some theme => manager.highlighter.stylesheet theme
  | none => .error (.themeNotFound "")

end HighlightManager

end Docpress
