import Docpress.Highlight.PlainText
import Docpress.Markdown
import Docpress.Program.Commands

/-!
The program with the libraries that it runs with: the reader of Markdown that follows the standard, and
the library with the grammar of plain text.
-/
