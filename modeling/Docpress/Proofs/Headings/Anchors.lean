import Docpress.Document
import Docpress.Markdown
import Docpress.Proofs.Headings.Elements
import Docpress.Proofs.Node.Parsed

/-!
The list of headings of a rendered document against the heading elements of its output: the elements
are those of the listed headings that show, in the same order and under the same identifiers.
-/

namespace Docpress

open Fallible

-----------------------------------------------------------------------------------------
-- Everything shows in parsed trees
-----------------------------------------------------------------------------------------

/-- Conversion leaves no node below one without a place for it, and makes headings of fine levels
only, by induction on how the tree is made.
-/
theorem Node.Parsed.shown {fine : Nat → Bool} {levels : Nat} {node : Node}
    (parsed : Parsed fine levels node)
    : ∀ entry ∈ inherit visibleRule true node,
        entry.1 = true ∧ ∀ level, entry.2.headingLevel? = some level → fine level = true := by
  induction parsed with
  | @leaf levels kind bare =>
      rw [Node.leaf, inherit_visibleRule_plain]
      refine List.forall_mem_cons.mpr ⟨⟨rfl, fun level known => ?_⟩, fun _ member => nomatch member⟩
      cases kind <;> cases known
      cases bare
  | @holder levels kind children holds below ih =>
      have keeps : kind.keepsChildren = true := by
        cases kind <;> first | rfl | cases holds
      rw [inherit_visibleRule_plain, keeps]
      refine List.forall_mem_cons.mpr ⟨⟨rfl, fun level known => ?_⟩, fun entry member => ?_⟩
      · cases kind <;> cases known
        exact holds
      · obtain ⟨child, here, inside⟩ := (mem_inheritAll visibleRule).mp member
        exact ih child here entry inside
  | codeBlock language literal =>
      intro entry member
      rcases List.mem_cons.mp member with same | member
      · subst same
        exact ⟨rfl, fun _ known => nomatch known⟩
      · rw [List.mem_singleton.mp member]
        exact ⟨rfl, fun _ known => nomatch known⟩
  | table cells below ih =>
      rw [inherit_visibleRule_table, inheritRows_eq_flatten, ← inheritAll_append]
      refine List.forall_mem_cons.mpr ⟨⟨rfl, fun _ known => nomatch known⟩, fun entry member => ?_⟩
      obtain ⟨cell, here, inside⟩ := (mem_inheritAll visibleRule).mp member
      -- The cell comes first, which is no heading, and then what it holds.
      rw [cells cell here, inherit_visibleRule_plain] at inside
      rcases List.mem_cons.mp inside with same | inside
      · subst same
        exact ⟨rfl, fun _ known => nomatch known⟩
      · obtain ⟨child, listed, inside⟩ := (mem_inheritAll visibleRule).mp inside
        exact ih cell here child listed entry inside

/-- In the tree of a document every node shows, and headings have levels from 1 to 6 if the reader of
its text finds no others.
-/
theorem Node.shown_of_ofSource {read : BlockReader} {options : RenderOptions} {source : String}
    (valid : ∀ text, ∀ block ∈ read text, block.LevelsValid) {tree : Node}
    (success : ofSource read options source = .ok tree)
    : ∀ entry ∈ tree.visibility,
        entry.1 = true
        ∧ ∀ level, entry.2.headingLevel? = some level → isHeadingLevel level = true := by
  obtain ⟨nodes, rfl, parsed⟩ := parsed_ofSource valid success
  refine List.forall_mem_cons.mpr ⟨⟨rfl, fun _ known => nomatch known⟩, fun entry member => ?_⟩
  obtain ⟨node, here, inside⟩ := (mem_inheritAll visibleRule).mp member
  exact (parsed node here).shown entry inside

-----------------------------------------------------------------------------------------
-- The two lists of headings
-----------------------------------------------------------------------------------------

/-- The headings of a tree are those among its nodes, whether or not they show. -/
theorem Node.headings_eq_headingsOf (tree : Node)
    : tree.headings = headingsOf (tree.visibility.map Prod.snd) := by
  rw [headings, descendants_eq_preorder, visibility, map_snd_inherit, headingsOf]

/-- There are as many headings as nodes that are headings, by induction on the nodes. -/
theorem Node.length_headingsOf (nodes : List Node)
    : (headingsOf nodes).length = headingCount nodes := by
  induction nodes with
  | nil => rfl
  | cons node rest ih =>
      rw [headingCount_cons, ← ih]
      cases level : node.headingLevel? <;>
        simp [headingsOf, headingCount, level, Nat.add_comm]

/-- Each heading has an identifier. -/
theorem length_headingIds (options : RenderOptions) (tree : Node)
    : (headingIds options tree).length = tree.headings.length := by
  rw [headingIds, SlugTracker.length_assignAll, List.length_map]

/-- The headers pair the headings with their identifiers. -/
theorem headers_eq_map_zip (options : RenderOptions) (tree : Node)
    : headers options tree
      = (tree.headings.zip (headingIds options tree)).map fun entry =>
          Header.ofHeading entry.1 entry.2 := by
  rw [List.map_zip_eq_zipWith]
  rfl

/-- The list of headings follows the headings of the tree. -/
theorem map_level_headers (options : RenderOptions) (tree : Node)
    : (headers options tree).map (·.level)
      = tree.visibility.filterMap fun entry => entry.2.headingLevel? := by
  have firsts := List.map_fst_zip (Nat.le_of_eq (length_headingIds options tree).symm)
  calc (headers options tree).map (·.level)
      = ((tree.headings.zip (headingIds options tree)).map Prod.fst).map Prod.fst := by
        rw [headers_eq_map_zip, List.map_map, List.map_map]
        rfl
    _ = tree.headings.map Prod.fst := by rw [firsts]
    _ = tree.visibility.filterMap fun entry => entry.2.headingLevel? := by
        rw [Node.headings_eq_headingsOf, Node.headingsOf, List.map_filterMap, List.filterMap_map]
        refine List.filterMap_congr fun entry _ => ?_
        exact (Option.map_map ..).trans Option.map_id'

/-- The identifiers of the headers are those that were issued, in their order. -/
theorem map_id_headers (options : RenderOptions) (tree : Node)
    : (headers options tree).map (·.id) = headingIds options tree := by
  rw [headers_eq_map_zip, List.map_map]
  exact List.map_snd_zip (Nat.le_of_eq (length_headingIds options tree))

/-- For each header it is known whether its heading shows. -/
theorem length_headingVisibility (options : RenderOptions) (tree : Node)
    : tree.headingVisibility.length = (headers options tree).length := by
  have levels := congrArg List.length (map_level_headers options tree)
  rw [List.length_map, List.length_filterMap_eq_countP] at levels
  rw [levels, Node.headingVisibility, List.length_filterMap_eq_countP]
  refine List.countP_congr fun entry _ => ?_
  rw [Option.isSome_map]

/-- Leaving out headings leaves out their identifiers, by induction on the list. -/
theorem map_id_shown_sublist (headers : List Header) (visibility : List Bool)
    : (((headers.zip visibility).filterMap shownElement).map (·.id)).Sublist
        (headers.map fun header => some header.id) := by
  induction headers generalizing visibility with
  | nil => exact List.Sublist.refl []
  | cons header rest ih =>
      cases visibility with
      | nil => exact List.nil_sublist _
      | cons visible visibility =>
          rw [List.zip_cons_cons, List.filterMap_cons, List.map_cons]
          simp only [shownElement]
          split
          next hidden => exact (ih visibility).cons _
          next element shows =>
            split at shows
            · cases shows
              exact (ih visibility).cons_cons _
            · cases shows

/-- With suffixes no two headers have the same identifier. -/
theorem nodup_map_id_headers {options : RenderOptions} (suffixed : options.headingIds = .suffixed)
    (tree : Node)
    : ((headers options tree).map fun header => some header.id).Nodup := by
  have distinct : (headingIds options tree).Nodup :=
    (SlugTracker.assignAll_suffixed suffixed _).2
  rw [← map_id_headers] at distinct
  have wrapped := distinct.map fun _ _ => Option.some.inj
  rw [List.map_map] at wrapped
  exact wrapped

/-- Where everything shows, all listed headings have elements. -/
theorem filterMap_shownElement {options : RenderOptions} {tree : Node}
    (shown
      : ∀ entry ∈ tree.visibility,
          entry.1 = true
          ∧ ∀ level, entry.2.headingLevel? = some level → isHeadingLevel level = true)
    : ((headers options tree).zip tree.headingVisibility).filterMap shownElement
      = (headers options tree).map Header.element := by
  have each : ∀ entry ∈ (headers options tree).zip tree.headingVisibility,
      shownElement entry = some entry.1.element := by
    rintro ⟨header, visible⟩ member
    obtain ⟨listed, flagged⟩ := List.of_mem_zip member
    have level : header.level ∈ (headers options tree).map (·.level) :=
      List.mem_map_of_mem listed
    rw [map_level_headers] at level
    obtain ⟨node, below, known⟩ := List.mem_filterMap.mp level
    obtain ⟨entry, here, same⟩ := List.mem_filterMap.mp flagged
    obtain ⟨_, _, rfl⟩ := Option.map_eq_some_iff.mp same
    rw [shownElement, (shown entry here).1, (shown node below).2 _ known]
    rfl
  calc ((headers options tree).zip tree.headingVisibility).filterMap shownElement
      = (((headers options tree).zip tree.headingVisibility).map Prod.fst).map Header.element := by
        rw [List.filterMap_congr each, ← List.filterMap_eq_map, List.filterMap_map]
        rfl
    _ = (headers options tree).map Header.element := by
        rw [List.map_fst_zip (Nat.le_of_eq (length_headingVisibility options tree).symm)]

/-- The heading elements of the output of a tree are those of the listed headings that show and have
a level from 1 to 6: in document order, under the listed identifiers, and each with an anchor to
itself. Suffixes make their identifiers distinct. In a document that is read from text these are all
headings if its reader finds levels from 1 to 6 only, as that of Markdown does.
-/
theorem headings_match_headers {cx : RenderContext} {tree : Node} {document : RenderedDocument}
    (success : renderTree cx none tree = .ok document)
    : document.headers.map (·.level)
          = (tree.visibility.filterMap fun entry => entry.2.headingLevel?)
      ∧ document.tree.headings
          = (document.headers.zip tree.headingVisibility).filterMap shownElement
      ∧ (cx.options.headingIds = .suffixed → (document.tree.headings.map (·.id)).Nodup)
      ∧ (∀ read options source,
          (∀ text, ∀ block ∈ read text, Markdown.Block.LevelsValid block)
          → Node.ofSource read options source = .ok tree
          → document.tree.headings = document.headers.map Header.element)
      ∧ ∀ options source,
          Node.ofMarkdown options source = .ok tree
          → document.tree.headings = document.headers.map Header.element := by
  obtain ⟨_, out, rest, here, rfl⟩ := renderTree_eq_ok_iff.mp success
  dsimp only
  have enough : Node.headingCount (tree.visibility.map Prod.snd)
      ≤ (headingIds cx.options tree).length := by
    rw [length_headingIds, Node.headings_eq_headingsOf, Node.length_headingsOf]
  have elements : out.headings
      = ((headers cx.options tree).zip tree.headingVisibility).filterMap shownElement := by
    rw [Markup.headings, collect_renderNode (reads_headings cx) here]
    have listed := contribute_headings tree.visibility _ enough
    rw [← Node.headings_eq_headingsOf] at listed
    exact listed
  have all {read : Node.BlockReader} {options : RenderOptions} {source : String}
      (valid : ∀ text, ∀ block ∈ read text, Markdown.Block.LevelsValid block)
      (made : Node.ofSource read options source = .ok tree)
      : out.headings = (headers cx.options tree).map Header.element := by
    rw [elements]
    exact filterMap_shownElement (Node.shown_of_ofSource valid made)
  refine ⟨map_level_headers cx.options tree, elements, fun suffixed => ?_, ?_, ?_⟩
  · rw [elements]
    exact (map_id_shown_sublist _ _).nodup (nodup_map_id_headers suffixed tree)
  · exact fun _ _ _ => all
  · exact fun options _ => all fun text => Markdown.levelsValid_parse options.gfm text

/-- A document with equal headings: one that shows, one below a text, one on a seventh level, and one
in a cell.
-/
def headingSample : Node :=
  .plain .document
    [.heading 1 "A", .plain (.text "x") [.heading 2 "A"], .heading 7 "A",
      .table [] [.plain .tableCell [.heading 3 "A"]] []]

/-- Headings without an element use up identifiers all the same. In a text all headings have one. -/
theorem headings_match_headers_sample
    : (∃ document,
        renderTree ⟨{ headingIds := .suffixed }, none⟩ none headingSample = .ok document
        ∧ document.headers.map (·.id) = ["a", "a-1", "a-2", "a-3"]
        ∧ document.tree.headings = [⟨1, some "a", some "#a"⟩, ⟨3, some "a-3", some "#a-3"⟩]
        ∧ (document.tree.headings.map (·.id)).Nodup)
      ∧ ∃ document,
          DocumentRenderer.render ⟨{}, none⟩ none "# A\n> ## A" = .ok document
          ∧ document.tree.headings = [⟨1, some "a", some "#a"⟩, ⟨2, some "a", some "#a"⟩] := by
  constructor
  · have listed
        : (renderTree ⟨{ headingIds := .suffixed }, none⟩ none headingSample).toOption.map
            (·.headers)
          = some [⟨"A", 1, "a"⟩, ⟨"A", 2, "a-1"⟩, ⟨"A", 7, "a-2"⟩, ⟨"A", 3, "a-3"⟩] := by
      decide +kernel
    obtain ⟨document, success, known⟩ := exists_of_toOption_map listed
    obtain ⟨_, shown, unique, _⟩ := headings_match_headers success
    refine ⟨document, success, ?_, ?_, unique rfl⟩
    · rw [known]
      rfl
    · rw [shown, known]
      rfl
  · have listed
        : (DocumentRenderer.render ⟨{}, none⟩ none "# A\n> ## A").toOption.map (·.headers)
          = some [⟨"A", 1, "a"⟩, ⟨"A", 2, "a"⟩] := by
      decide +kernel
    obtain ⟨document, rendered, known⟩ := exists_of_toOption_map listed
    obtain ⟨tree, read, success⟩ := bind_eq_ok_iff.mp rendered
    obtain ⟨_, _, _, _, all⟩ := headings_match_headers success
    refine ⟨document, rendered, ?_⟩
    rw [all {} _ read, known]
    rfl

end Docpress
