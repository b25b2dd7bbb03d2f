import Docpress.Markdown.BlockLines
import Docpress.Markdown.FrontMatter
import Docpress.Markdown.Inlines

/-!
The Markdown reader: a text becomes blocks, and the running text of the blocks is parsed when all link
references of the document are known.
-/

namespace Docpress.Markdown

/-- The lines of a document and the settings in front of it. A byte order mark at the start is no
text.
-/
def splitDocument (text : List Char) : Option (List Char) × List Line :=
  match FrontMatter.split? text with
  | some (settings, rest) => (some settings, lines rest)
  | none =>
    match text with
    | '\uFEFF' :: text => (none, lines text)
    | text => (none, lines text)

/-- The blocks of a document. With `gfm` there are tables, strikethrough, task lists and bare links;
settings in front of the document are always recognised.
-/
def parse (gfm : Bool) (source : String) : List (Block (List Inline)) :=
  let (settings, lines) := splitDocument source.toList
  let (blocks, references) := OpenBlocks.ofLines gfm lines
  let joined := Block.mapAll (fun text => Inline.joinTexts (Inline.ofText gfm references text)) blocks
  let finished :=
    if gfm then Block.mapAll Inline.linkMail (Block.dropTaskMarkersAll joined) else joined
  match settings with
  | some settings => .frontMatter (String.ofList settings) :: finished
  | none => finished

instance : Reader where
  read := parse

end Docpress.Markdown
