import Docpress.Markdown.LinkParts
import Docpress.Markdown.Literal

/-!
Link references: definitions that stand at the start of a paragraph, and their look-up by label. The
first definition of a label counts.
-/

namespace Docpress.Markdown

open Text

/-- The target and the title that a label stands for. -/
structure Reference where
  label : List Char
  target : List Char
  title : List Char
  deriving Repr, DecidableEq

/-- The definitions of a document, the first one first. -/
abbrev References := List Reference

namespace Reference

/-- The text after its leading spaces and tabs. -/
def skipBlanks (text : List Char) : List Char :=
  text.dropWhile isSpaceOrTab

/-- The text after the end of its line, if nothing else is left on the line. -/
def lineEnd? (text : List Char) : Option (List Char) :=
  match skipBlanks text with
  | [] => some []
  | '\n' :: rest => some rest
  | _ => none

/-- The text after blanks that hold at most one line end. -/
def skipOneLineEnd (text : List Char) : List Char :=
  match skipBlanks text with
  | '\n' :: rest => skipBlanks rest
  | rest => rest

/-- Reads a definition. There must be a target. What looks like a title but is followed by more text is none, and then must
start on a line of its own.
-/
def ofText? (text : List Char) : Option (Reference × List Char) := do
  let (label, rest) ← LinkParts.label? text
  if label.isEmpty then none
  match rest with
  | ':' :: rest =>
    let targetStart := skipOneLineEnd rest
    if targetStart.isEmpty then none
    let (target, beforeTitle) ← LinkParts.target? targetStart
    let titleStart := skipOneLineEnd beforeTitle
    let (title, rest) :=
      if titleStart.length < beforeTitle.length then LinkParts.title titleStart
      else ([], beforeTitle)
    let (title, rest) ←
      if title.isEmpty then (lineEnd? beforeTitle).map fun rest => ([], rest)
      else
        match lineEnd? rest with
        | some rest => some (title, rest)
        | none => (lineEnd? beforeTitle).map fun rest => ([], rest)
    return (⟨normalLabel label, targetText target, titleText title⟩, rest)
  | _ => none

/-- Takes the definitions from the start of a paragraph. -/
def takeDefinitions (references : References) (text : List Char) : References × List Char :=
  match ofText? text with
  | none => (references, text)
  | some (reference, rest) =>
    if rest.length < text.length then takeDefinitions (references ++ [reference]) rest
    else (references, text)
termination_by text.length

/-- The definition of a label. -/
def find? (references : References) (label : List Char) : Option Reference :=
  let label := normalLabel label
  if label.isEmpty then none else List.find? (·.label == label) references

end Reference

end Docpress.Markdown
