import Docpress.Document
import Docpress.Markdown
import Docpress.Proofs.Node.Texts

/-!
The author's text in rendered documents. From parsed Markdown to output every piece of text is kept, once
and in its place.
-/

namespace Docpress

open Fallible

namespace Markup

/-- The piece of text that a node of an output tree is. -/
def ownText : Markup → List String
  | .text value => [value]
  | _ => []

/-- The pieces of text of an output tree, in document order. -/
def texts (markup : Markup) : List String :=
  markup.collect ownText

/-- An element has no text of its own. -/
theorem collect_ownText_element (tag : Tag) (attrs : Attributes) (children : List Markup)
    : collect ownText (.element tag attrs children) = collectAll ownText children := by
  rw [collect_element]
  rfl

end Markup

/-- Without highlighting each kind of node shows its own text and nothing else. The anchor of a heading
is empty.
-/
theorem reads_texts {cx : RenderContext} (off : cx.options.highlightCode = false)
    : Reads cx Markup.ownText fun _ => Kind.texts where
  shell := by
    intro id kind shell known children
    cases kind with
    | heading level =>
        cases known
        unfold Shell.heading
        -- In front of its children a heading of level one to six has an anchor, which holds no text.
        split
        · rw [Shell.fill, Markup.collect_ownText_element, List.singleton_append,
            Markup.collectAll_cons]
          rfl
        · exact Markup.collect_ownText_element _ _ _
    | document | tableCell | other tag =>
        cases known
        exact Markup.collect_fragment _ _
    | text value | softBreak | html markup =>
        cases known
        exact Markup.collect_text _ _
    | paragraph | emphasis | strong | strikethrough | pre | blockQuote | listItem =>
        cases known
        exact Markup.collect_ownText_element _ _ _
    | thematicBreak | lineBreak | image src alt title attrs =>
        cases known
        exact Markup.collect_ownText_element _ _ _
    | link href title attrs =>
        cases known
        exact Markup.collect_ownText_element _ _ _
    | code literal language attrs =>
        obtain ⟨content, made, rfl⟩ := map_eq_ok_iff.mp known
        rcases codeContent_eq_ok_iff.mp made with ⟨_, rfl⟩ | ⟨on, _⟩
        · exact Markup.collect_ownText_element _ _ _
        · exact absurd (off.symm.trans on) Bool.noConfusion
    | list ordered start =>
        cases ordered with
        | true =>
            cases known
            exact Markup.collect_ownText_element _ _ _
        | false =>
            cases known
            exact Markup.collect_ownText_element _ _ _
  frame := fun _ _ _ => rfl

/-- Without highlighting the output of a tree shows the texts of the nodes that show. -/
theorem texts_renderNode {cx : RenderContext} (off : cx.options.highlightCode = false)
    {node : Node} {ids rest : List String} {out : Markup}
    (success : renderNode .standard cx node ids = .ok (out, rest))
    : out.texts = Node.shownTexts [node] := by
  rw [Markup.texts, collect_renderNode (reads_texts off) success, contribute_eq_shownParts,
    Node.shownTexts, Node.inheritAll, Node.inheritAll, List.append_nil]

/-- No text of an author is lost, repeated or moved on the way from parsed Markdown to output. Where no
code block is a table to be read, and code is not highlighted, the texts of the output are those of
the blocks, piece by piece.
-/
theorem texts_of_rendered_blocks {read : Node.BlockReader} {options : RenderOptions}
    {blocks : List (Markdown.Block (List Markdown.Inline))}
    (plainCode : Node.HasPlainCode options (Markdown.Block.preorderAll blocks))
    {tree : Node} (converted : Node.ofBlocks read options blocks = .ok tree) {cx : RenderContext}
    (off : cx.options.highlightCode = false) {document : RenderedDocument}
    (rendered : renderTree cx none tree = .ok document)
    : document.tree.texts = Markdown.Block.textsAll blocks := by
  obtain ⟨_, out, rest, here, rfl⟩ := renderTree_eq_ok_iff.mp rendered
  rw [texts_renderNode off here, Node.shownTexts_ofBlocks plainCode converted]

/-- Blocks of many kinds, with text where none is shown: in settings and in the description of an image.
-/
def textSample : List (Markdown.Block (List Markdown.Inline)) :=
  [.frontMatter "title: x", .heading 1 [.text "A", .code "b"],
    .list (some 1) [[.paragraph [.text "c", .softBreak, .link "/" "" [.text "d"]]]],
    .table [[.text "e"], []] [[[.html "<i>"], [.strong [.text "f"]]]], .code "rust x" "g\n",
    .other "alert" [.paragraph [.image "u" "" [.text "h"], .lineBreak, .other "sup" [.text "i"]]]]

/-- The texts of the sample come out in the order in which they were written. -/
theorem texts_of_textSample
    : ∃ tree document,
        Node.ofBlocks (fun _ => []) {} textSample = .ok tree
        ∧ renderTree ⟨{ highlightCode := false }, none⟩ none tree = .ok document
        ∧ document.tree.texts
          = ["A", "b", "c", "\n", "d", "e", "<i>", "f", "g\n", "i"] := by
  have plainCode : Node.HasPlainCode {} (Markdown.Block.preorderAll textSample) := by
    intro info literal member
    simp only [textSample, Markdown.Block.preorderAll, Markdown.Block.preorder,
      Markdown.Block.preorderItems, List.append_nil, List.cons_append, List.nil_append,
      List.mem_cons, reduceCtorEq, Markdown.Block.code.injEq, List.not_mem_nil, false_or,
      or_false] at member
    obtain ⟨rfl, rfl⟩ := member
    decide +kernel
  have succeeds
      : (Node.ofBlocks (fun _ => []) {} textSample
          >>= renderTree ⟨{ highlightCode := false }, none⟩ none).toOption.map (fun _ => ())
        = some () := by
    decide +kernel
  obtain ⟨document, success, _⟩ := exists_of_toOption_map succeeds
  obtain ⟨tree, converted, rendered⟩ := bind_eq_ok_iff.mp success
  exact ⟨tree, document, converted, rendered,
    texts_of_rendered_blocks plainCode converted rfl rendered⟩

end Docpress
