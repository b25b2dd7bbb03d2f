import Docpress.Document
import Docpress.Markdown
import Docpress.Proofs.Fallible
import Docpress.Proofs.Node.Preorder
import Mathlib.Data.List.Basic

/-!
The plain text of a tree against the walk over its nodes. Both leave out images and the author's markup,
but plain text leaves out the cells of tables as well, which the walk visits. The two agree exactly if
no cell that the walk comes by has a text.
-/

namespace Docpress

/-- The plain text that a node of a kind has of its own. -/
def Kind.plainText : Kind → String
  | .text value => value
  | .code literal _ _ => literal
  | .softBreak | .lineBreak => " "
  | _ => ""

/-- Whether nothing of a node of a kind is plain text, nor anything below it. -/
def Kind.isMute : Kind → Bool
  | .image .. | .html _ => true
  | _ => false

namespace Node

/-- The plain text that a node has of its own. -/
def ownText : Node → String
  | .plain kind _ => kind.plainText
  | .table .. => ""

/-- Whether a node is an image or markup of the author's. -/
def isMute : Node → Bool
  | .plain kind _ => kind.isMute
  | .table .. => false

/-- Where a node of a tree stands: below an image or the author's markup, and in a cell of a table. -/
structure Standing where
  belowMute : Bool := false
  inCell : Bool := false

/-- Whatever is nested in a mute node stands below it, and cells are cells all the way down. -/
def standingRule : Inheritance Standing where
  toChildren standing node := { standing with belowMute := standing.belowMute || node.isMute }
  toCells standing node := { belowMute := standing.belowMute || node.isMute, inCell := true }

/-- The nodes of a tree in document order, each with where it stands. -/
def standings (tree : Node) : List (Standing × Node) :=
  inherit standingRule {} tree

/-- Whether a node is neither an image nor the author's markup, nor below one. -/
def isHeard (entry : Standing × Node) : Bool :=
  !entry.1.belowMute && !entry.2.isMute

/-- The own texts of listed nodes, one after another. -/
def joinedText (entries : List (Standing × Node)) : String :=
  .join (entries.map (·.2.ownText))

/-- The text that the walk over a tree comes by, images and the author's markup left out. -/
def walkText (tree : Node) : String :=
  joinedText (tree.standings.filter isHeard)

-----------------------------------------------------------------------------------------
-- Plain text is read off the nodes outside cells
-----------------------------------------------------------------------------------------

/-- Whether a node is heard and stands in no cell. -/
def isSaid (entry : Standing × Node) : Bool :=
  isHeard entry && !entry.1.inCell

/-- The text of the listed nodes that are heard and stand in no cell. -/
def saidText (entries : List (Standing × Node)) : String :=
  joinedText (entries.filter isSaid)

/-- What is said in two lists of nodes is said in the one and then in the other. -/
theorem saidText_append (left right : List (Standing × Node))
    : saidText (left ++ right) = saidText left ++ saidText right := by
  simp only [saidText, joinedText, List.filter_append, List.map_append, String.join_append]

/-- A single node says its own text, or nothing. -/
theorem saidText_singleton (entry : Standing × Node)
    : saidText [entry] = if isSaid entry then entry.2.ownText else "" := by
  cases said : isSaid entry <;> simp [saidText, joinedText, said]

/-- Where no node has a say, nothing is said. -/
theorem saidText_eq_empty {entries : List (Standing × Node)}
    (unsaid : ∀ entry ∈ entries, isSaid entry = false)
    : saidText entries = "" := by
  have none : entries.filter isSaid = [] := by
    simpa only [List.filter_eq_nil_iff, Bool.not_eq_true] using unsaid
  rw [saidText, none]
  rfl

/-- Whether nothing below is said: below a mute node, and in a cell. -/
def Standing.isSilent (standing : Standing) : Bool :=
  standing.belowMute || standing.inCell

/-- Below a node where nothing is said, nothing is said either. -/
theorem keeps_silent : standingRule.Keeps (·.isSilent = true) where
  toChildren standing _ silent := by
    rcases Bool.or_eq_true_iff.mp silent with mute | cell
    · simp [standingRule, Standing.isSilent, mute]
    · simp [standingRule, Standing.isSilent, cell]
  toCells _ _ _ := Bool.or_true _

/-- Nothing below a mute node is said, nor anything in a cell. -/
theorem saidText_of_silent {standing : Standing} (silent : standing.isSilent = true)
    (nodes : List Node)
    : saidText (inheritAll standingRule standing nodes) = "" := by
  apply saidText_eq_empty
  intro entry member
  rcases Bool.or_eq_true_iff.mp (keeps_silent.inheritAll silent nodes entry member) with mute | cell
  · simp [isSaid, isHeard, mute]
  · simp [isSaid, cell]

/-- The own text of a node comes before that of its children, unless the node is mute. -/
theorem textContent_plain (kind : Kind) (children : List Node)
    : textContent (.plain kind children)
      = if kind.isMute then "" else kind.plainText ++ textOfAll children := by
  cases kind <;> simp [textContent, Kind.isMute, Kind.plainText]

mutual

/-- Plain text is what is said, by induction on the tree. -/
theorem textContent_eq_saidText (node : Node)
    : node.textContent = saidText (inherit standingRule {} node) := by
  cases node with
  | plain kind children =>
      rw [textContent_plain, inherit, ← List.singleton_append, saidText_append,
        saidText_singleton]
      cases mute : kind.isMute with
      | true =>
          have silent : (standingRule.toChildren {} (.plain kind children)).isSilent = true := by
            simp [standingRule, Standing.isSilent, isMute, mute]
          rw [saidText_of_silent silent]
          simp [isSaid, isHeard, isMute, mute]
      | false =>
          have same : standingRule.toChildren {} (.plain kind children) = {} := by
            simp [standingRule, isMute, mute]
          rw [same, ← textOfAll_eq_saidText children]
          simp [isSaid, isHeard, isMute, mute, ownText]
  | table children headers rows =>
      have same : standingRule.toChildren {} (.table children headers rows) = {} := rfl
      have silent : (standingRule.toCells {} (.table children headers rows)).isSilent = true := rfl
      rw [textContent, inherit, same, ← List.singleton_append, saidText_append, saidText_append,
        saidText_append, saidText_singleton, inheritRows_eq_flatten, saidText_of_silent silent,
        saidText_of_silent silent, ← textOfAll_eq_saidText children]
      simp [ownText]

/-- The text of trees in a row is what is said in each, by induction on the row. -/
theorem textOfAll_eq_saidText (nodes : List Node)
    : textOfAll nodes = saidText (inheritAll standingRule {} nodes) := by
  cases nodes with
  | nil => rfl
  | cons node rest =>
      rw [textOfAll, inheritAll, saidText_append, ← textContent_eq_saidText node,
        ← textOfAll_eq_saidText rest]

end

-----------------------------------------------------------------------------------------
-- What is left out
-----------------------------------------------------------------------------------------

/-- Texts that are left out of a joined text make no difference exactly if they are all empty, by
induction on the list: the lengths add up.
-/
theorem join_filter_eq_iff {α : Type} (text : α → String) (keep : α → Bool) (items : List α)
    : String.join ((items.filter keep).map text) = String.join (items.map text)
      ↔ ∀ item ∈ items, keep item = false → text item = "" := by
  have shorter (items : List α)
      : (String.join ((items.filter keep).map text)).length
        ≤ (String.join (items.map text)).length := by
    induction items with
    | nil => simp
    | cons item rest ih => cases kept : keep item <;> simp [kept] at ih ⊢ <;> omega
  induction items with
  | nil => simp
  | cons item rest ih =>
      cases kept : keep item with
      | true => simp [kept, ih]
      | false =>
          rw [List.filter_cons_of_neg (by simp [kept]), List.map_cons, String.join_cons]
          constructor
          · intro same
            have bound := shorter rest
            rw [same, String.length_append] at bound
            have empty : text item = "" := String.length_eq_zero_iff.mp (by omega)
            rw [empty, String.empty_append] at same
            exact List.forall_mem_cons.mpr ⟨fun _ => empty, ih.mp same⟩
          · intro all
            obtain ⟨here, later⟩ := List.forall_mem_cons.mp all
            rw [here kept, String.empty_append, ih.mpr later]

/-- The plain text of a tree is the text of the walk over it, images and the author's markup left out,
exactly if no cell of a table has a text that the walk comes by: the text of cells is left out.
-/
theorem textContent_eq_walkText_iff (tree : Node)
    : tree.standings.map Prod.snd = tree.descendants
      ∧ tree.textContent
        = joinedText ((tree.standings.filter isHeard).filter fun entry => !entry.1.inCell)
      ∧ (tree.textContent = tree.walkText
        ↔ ∀ entry ∈ tree.standings, isHeard entry = true → entry.1.inCell = true
          → entry.2.ownText = "") := by
  have said : tree.textContent
      = joinedText ((tree.standings.filter isHeard).filter fun entry => !entry.1.inCell) := by
    rw [textContent_eq_saidText, saidText, List.filter_filter]
    exact congrArg joinedText (List.filter_congr fun entry _ => Bool.and_comm _ _)
  refine ⟨?_, said, ?_⟩
  · rw [standings, map_snd_inherit, descendants_eq_preorder]
  · rw [said, walkText, joinedText, joinedText, join_filter_eq_iff]
    simp only [List.mem_filter, Bool.not_eq_false', and_imp]

/-- A document with a table, the texts of which are in its cells. -/
def tableSource : String := "| a |\n|---|\n| b |"

/-- The walk comes by the text of cells, and the plain text of the document around them lacks it. -/
theorem cell_text_left_out
    : ∃ tree,
        Node.ofMarkdown {} tableSource = .ok tree
        ∧ tree.walkText = "ab"
        ∧ tree.textContent = ""
        ∧ tree.textContent ≠ tree.walkText := by
  have texts
      : (Node.ofMarkdown {} tableSource).toOption.map
          (fun tree => (tree.walkText, tree.textContent))
        = some ("ab", "") := by
    decide +kernel
  obtain ⟨tree, success, both⟩ := Fallible.exists_of_toOption_map texts
  obtain ⟨walked, said⟩ := Prod.mk.inj both
  refine ⟨tree, success, walked, said, ?_⟩
  rw [walked, said]
  decide

end Node

end Docpress
