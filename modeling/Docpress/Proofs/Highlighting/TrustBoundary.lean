import Docpress.Markup.Html
import Docpress.Proofs.Markup.Trusted
import Docpress.Proofs.Rendering.Visible

/-!
Rendering with and without highlighting. The two outputs differ in the code that shows and nowhere else:
with highlighting it is what the highlighter returns, trusted as it stands, and without it is text.
-/

namespace Docpress

open Fallible Markup

/-- The piece of code that a node is. -/
def Kind.code? : Kind → Option Code
  | .code literal language _ => some ⟨literal, language⟩
  | _ => none

/-- The piece of code that a node is. Tables are none. -/
def Node.code? : Node → Option Code
  | .plain kind _ => kind.code?
  | .table .. => none

/-- The code of the listed nodes that show, in their order. -/
def shownCode (entries : List (Bool × Node)) : List Code :=
  entries.filterMap fun entry => if entry.1 then entry.2.code? else none

/-- The code that shows in the standard output of a tree, in document order. -/
def Node.shownCode (tree : Node) : List Code :=
  Docpress.shownCode tree.visibility

namespace RenderContext

/-- The context without highlighting. It makes no difference which highlighter is there. -/
def unhighlighted (cx : RenderContext) (highlighting : Option HighlightManager) : RenderContext :=
  ⟨{ cx.options with highlightCode := false }, highlighting⟩

/-- What the highlighter of a context returns for a piece of code. -/
def Highlights (cx : RenderContext) (code : Code) (markup : String) : Prop :=
  ∃ manager, cx.highlighting = some manager
    ∧ manager.highlight code.literal code.language = .ok markup

end RenderContext

/-- The code in two lists of nodes is that of the one and then that of the other. -/
theorem shownCode_append (left right : List (Bool × Node))
    : shownCode (left ++ right) = shownCode left ++ shownCode right :=
  List.filterMap_append

/-- The code that is shown is one of the things that are collected from the nodes that show. -/
theorem shownCode_eq_shownParts (entries : List (Bool × Node))
    : shownCode entries = shownParts (fun kind => kind.code?.toList) entries := by
  induction entries with
  | nil => rfl
  | cons entry rest ih =>
      obtain ⟨visible, node⟩ := entry
      rw [← List.singleton_append, shownCode_append, shownParts_append, ih]
      refine congrArg (· ++ _) ?_
      cases visible with
      | false => cases node <;> rfl
      | true =>
          cases node with
          | table children headers rows => rfl
          | plain kind children => cases kind <;> rfl

/-- The code in a node is its own, and then that of its children if they are rendered. -/
theorem shownCode_plain (kind : Kind) (children : List Node)
    : shownCode (Node.inherit visibleRule true (.plain kind children))
      = kind.code?.toList
        ++ if kind.keepsChildren then shownCode (Node.inheritAll visibleRule true children)
          else [] := by
  simp only [shownCode_eq_shownParts, shownParts_plain]

/-- The code in a table is that of its headers, and then that of its rows. -/
theorem shownCode_table (children headers : List Node) (rows : List (List Node))
    : shownCode (Node.inherit visibleRule true (.table children headers rows))
      = shownCode (Node.inheritAll visibleRule true headers)
        ++ shownCode (Node.inheritRows visibleRule true rows) := by
  simp only [shownCode_eq_shownParts, shownParts_table]

-----------------------------------------------------------------------------------------
-- Single nodes
-----------------------------------------------------------------------------------------

variable {cx : RenderContext}

/-- Shells that differ at most in how they show the code of a kind of node. -/
theorem Shell.ofKind_unhighlighted (on : cx.options.highlightCode = true)
    (highlighting : Option HighlightManager) {id : String} {kind : Kind} {shell : Shell}
    (known : ofKind cx id kind = .ok shell)
    : ∃ plain,
        ofKind (cx.unhighlighted highlighting) id kind = .ok plain
        ∧ ∀ {codes left right},
            ShowsCode cx.Highlights codes left right
            → ShowsCode cx.Highlights
                (kind.code?.toList ++ if kind.keepsChildren then codes else [])
                [shell.fill left] [plain.fill right] := by
  cases kind with
  | code literal language attrs =>
      obtain ⟨content, made, rfl⟩ := map_eq_ok_iff.mp known
      rcases codeContent_eq_ok_iff.mp made with ⟨off, _⟩ | ⟨_, manager, markup, found, result, rfl⟩
      · exact absurd (on.symm.trans off) Bool.noConfusion
      · exact ⟨_, rfl, fun _ =>
          .element (.html "code") attrs (.code ⟨manager, found, result⟩ .nil) .nil⟩
  | heading level =>
      cases known
      refine ⟨_, rfl, fun pair => ?_⟩
      -- A heading is the same in both, with its anchor or without one.
      unfold Shell.heading
      cases (NodeType.heading? level).isSome with
      | true => exact (ShowsCode.element _ _ .nil pair).enclose _ _
      | false => exact pair.enclose _ _
  | list ordered start =>
      cases ordered with
      | true =>
          cases known
          exact ⟨_, rfl, fun pair => pair.enclose _ _⟩
      | false =>
          cases known
          exact ⟨_, rfl, fun pair => pair.enclose _ _⟩
  | document | tableCell | other tag =>
      cases known
      exact ⟨_, rfl, fun pair => pair.enclose_fragment⟩
  | text value | softBreak | html markup =>
      cases known
      exact ⟨_, rfl, fun _ => .text _ .nil⟩
  | thematicBreak | lineBreak | image src alt title attrs =>
      cases known
      exact ⟨_, rfl, fun _ => .element _ _ .nil .nil⟩
  | paragraph | emphasis | strong | strikethrough | pre | blockQuote | listItem =>
      cases known
      exact ⟨_, rfl, fun pair => pair.enclose _ _⟩
  | link href title attrs =>
      cases known
      exact ⟨_, rfl, fun pair => pair.enclose _ _⟩

-----------------------------------------------------------------------------------------
-- Whole trees
-----------------------------------------------------------------------------------------

mutual

/-- Without highlighting a tree renders if it does with highlighting, and shows the same code as text.
The induction is on the tree; both runs take the same identifiers.
-/
theorem renderNode_unhighlighted (on : cx.options.highlightCode = true)
    (highlighting : Option HighlightManager) {node : Node} {ids rest : List String} {out : Markup}
    (success : renderNode .standard cx node ids = .ok (out, rest))
    : ∃ plain,
        renderNode .standard (cx.unhighlighted highlighting) node ids = .ok (plain, rest)
        ∧ ShowsCode cx.Highlights (shownCode (Node.inherit visibleRule true node)) [out] [plain] := by
  cases node with
  | plain kind children =>
      obtain ⟨rendered, below, here⟩ := renderNode_plain_iff.mp success
      rw [dispatch_plain] at here
      obtain ⟨shell, known, rfl⟩ := map_eq_ok_iff.mp here
      obtain ⟨others, later, pair⟩ := renderList_unhighlighted on highlighting below
      obtain ⟨plain, made, shows⟩ := Shell.ofKind_unhighlighted on highlighting known
      refine ⟨plain.fill others, renderNode_plain_iff.mpr ⟨others, later, ?_⟩, ?_⟩
      · rw [dispatch_plain, made]
        rfl
      · rw [shownCode_plain]
        exact shows pair
  | table children headers rows =>
      obtain ⟨rendered, ids₁, headersOut, ids₂, rowsOut, below, heads, cells, here⟩ :=
        renderNode_table_iff.mp success
      rw [dispatch_table] at here
      obtain ⟨_, checked, rfl⟩ := map_eq_ok_iff.mp here
      obtain ⟨others, later, _⟩ := renderList_unhighlighted on highlighting below
      obtain ⟨headersPlain, overPlain, headerPair⟩ := renderList_unhighlighted on highlighting heads
      obtain ⟨rowsPlain, cellsPlain, rowPair, lengths⟩ :=
        renderRows_unhighlighted on highlighting cells
      -- The check must pass in both runs: it sees rendered cells, but only how many there are.
      rw [checkShape_congr cx.options.tableMode headerPair.length_eq lengths] at checked
      refine ⟨Table.toMarkup ⟨headersPlain, rowsPlain⟩, renderNode_table_iff.mpr ⟨others, ids₁,
        headersPlain, ids₂, rowsPlain, later, overPlain, cellsPlain, ?_⟩, ?_⟩
      · rw [dispatch_table]
        exact map_eq_ok_iff.mpr ⟨_, checked, rfl⟩
      · rw [shownCode_table]
        exact Table.showsCode_toMarkup headerPair rowPair

/-- Without the highlighter the nodes in a row render alike up to their code, one node after another. -/
theorem renderList_unhighlighted (on : cx.options.highlightCode = true)
    (highlighting : Option HighlightManager) {nodes : List Node} {ids rest : List String}
    {outs : List Markup} (success : renderList .standard cx nodes ids = .ok (outs, rest))
    : ∃ plain,
        renderList .standard (cx.unhighlighted highlighting) nodes ids = .ok (plain, rest)
        ∧ ShowsCode cx.Highlights (shownCode (Node.inheritAll visibleRule true nodes)) outs plain := by
  cases nodes with
  | nil =>
      obtain ⟨rfl, rfl⟩ := renderList_nil_iff.mp success
      exact ⟨[], rfl, .nil⟩
  | cons node nodes =>
      obtain ⟨out, after, others, here, later, rfl⟩ := renderList_cons_iff.mp success
      obtain ⟨plain, herePlain, pair⟩ := renderNode_unhighlighted on highlighting here
      obtain ⟨rest, laterPlain, more⟩ := renderList_unhighlighted on highlighting later
      refine ⟨plain :: rest, renderList_cons_iff.mpr ⟨plain, after, rest, herePlain, laterPlain,
        rfl⟩, ?_⟩
      rw [Node.inheritAll, shownCode_append]
      exact pair.append more

/-- Without the highlighter the rows of a table render alike up to their code, and with as many cells. -/
theorem renderRows_unhighlighted (on : cx.options.highlightCode = true)
    (highlighting : Option HighlightManager) {rows : List (List Node)} {ids rest : List String}
    {outs : List (List Markup)} (success : renderRows .standard cx rows ids = .ok (outs, rest))
    : ∃ plain,
        renderRows .standard (cx.unhighlighted highlighting) rows ids = .ok (plain, rest)
        ∧ ShowsCode cx.Highlights (shownCode (Node.inheritRows visibleRule true rows))
            (outs.map (Table.rowMarkup "td")) (plain.map (Table.rowMarkup "td"))
        ∧ outs.map List.length = plain.map List.length := by
  cases rows with
  | nil =>
      obtain ⟨rfl, rfl⟩ := renderRows_nil_iff.mp success
      exact ⟨[], rfl, .nil, rfl⟩
  | cons row rows =>
      obtain ⟨out, after, others, here, later, rfl⟩ := renderRows_cons_iff.mp success
      obtain ⟨plain, herePlain, pair⟩ := renderList_unhighlighted on highlighting here
      obtain ⟨rest, laterPlain, more, lengths⟩ := renderRows_unhighlighted on highlighting later
      refine ⟨plain :: rest, renderRows_cons_iff.mpr ⟨plain, after, rest, herePlain, laterPlain,
        rfl⟩, ?_, ?_⟩
      · rw [Node.inheritRows, shownCode_append]
        exact (Table.showsCode_rowMarkup "td" pair).append more
      · rw [List.map_cons, List.map_cons, pair.length_eq, lengths]

end

/-- Trusted output comes from the highlighter alone. If a tree renders with highlighting it renders
without it; the trusted nodes of the first output are what the highlighter returns for the code that
shows, piece by piece, and with the code as text in their place it is the second output, which holds
nothing trusted.
-/
theorem trusted_parts_are_highlighted_code {cx : RenderContext} {tree : Node}
    {document : RenderedDocument} (on : cx.options.highlightCode = true)
    (success : renderTree cx none tree = .ok document) (highlighting : Option HighlightManager)
    : ∃ plain,
        renderTree (cx.unhighlighted highlighting) none tree = .ok plain
        ∧ List.Forall₂ cx.Highlights tree.shownCode document.tree.trustedParts
        ∧ document.tree.replaceTrusted (tree.shownCode.map (·.literal)) = (plain.tree, [])
        ∧ plain.tree.trustedParts = []
        ∧ plain.headers = document.headers
        ∧ plain.title = document.title := by
  obtain ⟨shallow, out, rest, here, rfl⟩ := renderTree_eq_ok_iff.mp success
  obtain ⟨plain, made, pair⟩ := renderNode_unhighlighted on highlighting here
  refine ⟨_, renderTree_eq_ok_iff.mpr ⟨shallow, plain, rest, made, rfl⟩, ?_, ?_, ?_, rfl, rfl⟩
  · have shown := pair.forall₂_trusted
    rwa [collectAll_cons, collectAll_nil, List.append_nil] at shown
  · have replaced := pair.replaceTrustedAll_eq []
    simp only [replaceTrustedAll, List.append_nil, Prod.mk.injEq, List.cons.injEq,
      and_true] at replaced
    exact Prod.ext replaced.1 replaced.2
  · have nothing := pair.trusted_right
    rwa [collectAll_cons, collectAll_nil, List.append_nil] at nothing

/-- A highlighter that marks code with its language. -/
def markingHighlighter : Highlighter where
  name := "Marking"
  languages := ["javascript", "rust"]
  themes := []
  highlight code language :=
    .ok ("<span class=\"tok-" ++ language ++ "\">" ++ Html.escapeText code ++ "</span>")
  stylesheet theme := .error (.themeNotFound theme)
  languageOfExtension? _ := none

/-- Code in running text, below a text where it does not show, and in a cell. -/
def codeSample : Node :=
  .plain .document
    [.code "a<b", .plain (.text "t") [.code "hidden"],
      .table [] [.plain .tableCell [.leaf (.code "c" (some "rs") .empty)]] []]

/-- Code that does not show has no trusted node. -/
theorem trusted_parts_of_codeSample
    : ∃ document plain,
        renderTree ⟨{}, some ⟨markingHighlighter, {}⟩⟩ none codeSample = .ok document
        ∧ renderTree ⟨{ highlightCode := false }, none⟩ none codeSample = .ok plain
        ∧ document.tree.trustedParts
          = ["<span class=\"tok-javascript\">a&lt;b</span>",
              "<span class=\"tok-rust\">c</span>"]
        ∧ document.tree.replaceTrusted ["a<b", "c"] = (plain.tree, []) := by
  have marked
      : (renderTree ⟨{}, some ⟨markingHighlighter, {}⟩⟩ none codeSample).toOption.map
          (·.tree.trustedParts)
        = some ["<span class=\"tok-javascript\">a&lt;b</span>",
            "<span class=\"tok-rust\">c</span>"] := by
    decide +kernel
  obtain ⟨document, success, parts⟩ := exists_of_toOption_map marked
  obtain ⟨plain, made, _, replaced, _⟩ := trusted_parts_are_highlighted_code rfl success none
  exact ⟨document, plain, success, made, parts, replaced⟩

end Docpress
