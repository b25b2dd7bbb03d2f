import Docpress.Highlight.Standard
import Docpress.Markup.Html
import Docpress.Markup.Json
import Docpress.Node.OfMarkdown
import Docpress.Render.Tree

/-!
From the text of a document to its rendered form: a renderer that reads, renders and makes style
sheets under one set of options, and the JSON form of what it renders. The reader of Markdown and the
library of grammars and style sheets are parameters.
-/

namespace Docpress

/-- The tree of a Markdown document. -/
def Node.ofMarkdown [reader : Markdown.Reader] (options : RenderOptions) (source : String)
    : Except RenderError Node :=
  Node.ofSource (reader.read options.gfm) options source

/-- A renderer of documents. Without a highlight manager code cannot be highlighted. -/
structure DocumentRenderer where
  options : RenderOptions
  highlighting : Option HighlightManager

namespace DocumentRenderer

/-- A renderer with a highlight manager. The language and the theme that the options give take the
place of the manager's own defaults.
-/
def withManager (options : RenderOptions) (manager : Option HighlightManager) : DocumentRenderer where
  options := options
  highlighting := manager.map fun manager =>
    { manager with
      config := { manager.config with
        defaultLanguage := options.defaultLanguage <|> manager.config.defaultLanguage
        defaultTheme := options.highlightTheme <|> manager.config.defaultTheme } }

/-- A renderer with the standard highlighter, or none if code is not to be highlighted. -/
def standard [SyntaxLibrary] (options : RenderOptions) : DocumentRenderer :=
  withManager options (if options.highlightCode then some standardManager else none)

/-- What renderers of nodes get to see. -/
def context (renderer : DocumentRenderer) : RenderContext :=
  { options := renderer.options, highlighting := renderer.highlighting }

/-- The tree of a document. -/
def parse [Markdown.Reader] (renderer : DocumentRenderer) (source : String)
    : Except RenderError Node :=
  Node.ofMarkdown renderer.options source

/-- Renders a tree. -/
def renderTree (renderer : DocumentRenderer) (overrides : Option Overrides) (tree : Node)
    : Except RenderError RenderedDocument :=
  Docpress.renderTree renderer.context overrides tree

/-- Reads and renders a document. -/
def render [Markdown.Reader] (renderer : DocumentRenderer) (overrides : Option Overrides)
    (source : String)
    : Except RenderError RenderedDocument := do
  renderer.renderTree overrides (← renderer.parse source)

/-- The style sheet of the theme that the options name. Without a highlight manager it is the standard
highlighter's.
-/
def stylesheet [SyntaxLibrary] (renderer : DocumentRenderer) : Except HighlightError String :=
  (renderer.highlighting.getD standardManager).stylesheet renderer.options.highlightTheme

end DocumentRenderer

/-- The JSON form of a heading. -/
def Header.toJson (header : Header) : Json :=
  .object
    [("text", .string header.text), ("level", .int header.level), ("id", .string header.id)]

/-- The JSON form of a rendered document. -/
def RenderedDocument.toJson (document : RenderedDocument) : Json :=
  .object
    [("tree", document.tree.toJson),
      ("headers", .array (document.headers.map Header.toJson)),
      ("title", .ofOption document.title)]

/-- The formats that documents are written in. -/
inductive OutputFormat where
  | html
  | json
  deriving Repr, DecidableEq, Inhabited

namespace OutputFormat

/-- The names of the output formats. -/
def names : List (String × OutputFormat) :=
  [("html", .html), ("json", .json)]

/-- The name of an output format, which is the extension of its files too. -/
def name : OutputFormat → String
  | .html => "html"
  | .json => "json"

end OutputFormat

/-- The written form of a rendered document. -/
def RenderedDocument.write (format : OutputFormat) (document : RenderedDocument) : String :=
  match format with
  | .html => document.tree.toHtml
  | .json => document.toJson.pretty

end Docpress
