import Docpress.Proofs.Markup.Preorder
import Mathlib.Data.List.Forall2

/-!
Trusted markup in output trees, and pairs of trees that differ only in it: where one tree has what a
highlighter made of a piece of code, the other one has the code as text.
-/

namespace Docpress

/-- A piece of code of a document. -/
structure Code where
  literal : String
  /-- The language that it names. -/
  language : Option String
  deriving Repr, DecidableEq

namespace Markup

/-- The trusted markup that a node of an output tree is. -/
def ownTrusted : Markup → List String
  | .trusted markup => [markup]
  | _ => []

/-- The trusted markup of an output tree, in document order. -/
def trustedParts (markup : Markup) : List String :=
  markup.collect ownTrusted

mutual

/-- The tree with the given texts in place of its trusted nodes, in document order, and the texts that
are left over.
-/
def replaceTrusted (texts : List String) : Markup → Markup × List String
  | .trusted markup =>
    match texts with
    | literal :: rest => (.text literal, rest)
    | [] => (.trusted markup, [])
  | .text value => (.text value, texts)
  | .fragment children =>
    let (children, texts) := replaceTrustedAll texts children
    (.fragment children, texts)
  | .element tag attrs children =>
    let (children, texts) := replaceTrustedAll texts children
    (.element tag attrs children, texts)

/-- The same for trees in a row. -/
def replaceTrustedAll (texts : List String) : List Markup → List Markup × List String
  | [] => ([], texts)
  | markup :: rest =>
    let (markup, texts) := replaceTrusted texts markup
    let (rest, texts) := replaceTrustedAll texts rest
    (markup :: rest, texts)

end

/-- The first trees show pieces of code as what `shows` makes of them and the second trees show them as
text, in this order. Everything else is the same.
-/
inductive ShowsCode (shows : Code → String → Prop)
    : List Code → List Markup → List Markup → Prop where
  | nil
    : ShowsCode shows [] [] []
  | code {code markup codes left right} (shown : shows code markup)
    (rest : ShowsCode shows codes left right)
    : ShowsCode shows (code :: codes) (.trusted markup :: left) (.text code.literal :: right)
  | text {codes left right} (value : String) (rest : ShowsCode shows codes left right)
    : ShowsCode shows codes (.text value :: left) (.text value :: right)
  | fragment {inner codes innerLeft innerRight left right}
    (below : ShowsCode shows inner innerLeft innerRight)
    (rest : ShowsCode shows codes left right)
    : ShowsCode shows (inner ++ codes) (.fragment innerLeft :: left) (.fragment innerRight :: right)
  | element {inner codes innerLeft innerRight left right} (tag : Tag) (attrs : Attributes)
    (below : ShowsCode shows inner innerLeft innerRight)
    (rest : ShowsCode shows codes left right)
    : ShowsCode shows (inner ++ codes) (.element tag attrs innerLeft :: left)
        (.element tag attrs innerRight :: right)

namespace ShowsCode

variable {shows : Code → String → Prop} {codes more : List Code} {left right : List Markup}

/-- Trees in a row show their code one after another, by induction on the first of them. -/
theorem append {others others' : List Markup} (first : ShowsCode shows codes left right)
    (later : ShowsCode shows more others others')
    : ShowsCode shows (codes ++ more) (left ++ others) (right ++ others') := by
  induction first with
  | nil => exact later
  | code shown _ ih => exact .code shown ih
  | text value _ ih => exact .text value ih
  | fragment below _ _ ih =>
      rw [List.append_assoc]
      exact .fragment below ih
  | element tag attrs below _ _ ih =>
      rw [List.append_assoc]
      exact .element tag attrs below ih

/-- Rows that show the same code have as many trees, by induction on the pairs. -/
theorem length_eq (pair : ShowsCode shows codes left right) : left.length = right.length := by
  induction pair with
  | nil => rfl
  | code _ _ ih | text _ _ ih | fragment _ _ _ ih | element _ _ _ _ _ ih =>
      exact congrArg Nat.succ ih

/-- An element around each tree shows no other code. -/
theorem map_wrap (name : String) (pair : ShowsCode shows codes left right)
    : ShowsCode shows codes (left.map fun markup => .wrap name [markup])
        (right.map fun markup => .wrap name [markup]) := by
  induction pair with
  | nil => exact .nil
  | code shown _ ih => exact .element (.html name) .empty (.code shown .nil) ih
  | text value _ ih => exact .element (.html name) .empty (.text value .nil) ih
  | fragment below _ _ ih =>
      have single := ShowsCode.fragment below .nil
      rw [List.append_nil] at single
      exact .element (.html name) .empty single ih
  | element tag attrs below _ _ ih =>
      have single := ShowsCode.element tag attrs below .nil
      rw [List.append_nil] at single
      exact .element (.html name) .empty single ih

/-- One element around all trees shows no other code. -/
theorem enclose (tag : Tag) (attrs : Attributes) (pair : ShowsCode shows codes left right)
    : ShowsCode shows codes [.element tag attrs left] [.element tag attrs right] := by
  have single := ShowsCode.element tag attrs pair .nil
  rwa [List.append_nil] at single

/-- Rows that show the same code do so inside a fragment. -/
theorem enclose_fragment (pair : ShowsCode shows codes left right)
    : ShowsCode shows codes [.fragment left] [.fragment right] := by
  have single := ShowsCode.fragment pair .nil
  rwa [List.append_nil] at single

/-- The trusted markup on the first side is that of the code, piece by piece. -/
theorem forall₂_trusted (pair : ShowsCode shows codes left right)
    : List.Forall₂ shows codes (collectAll ownTrusted left) := by
  induction pair with
  | nil => exact .nil
  | code shown _ ih =>
      rw [collectAll_cons, collect_trusted]
      exact .cons shown ih
  | text value _ ih =>
      rw [collectAll_cons, collect_text]
      exact ih
  | fragment _ _ below rest =>
      rw [collectAll_cons, collect_fragment]
      exact List.rel_append below rest
  | element tag attrs _ _ below rest =>
      rw [collectAll_cons, collect_element]
      exact List.rel_append below rest

/-- The second side holds no trusted markup. -/
theorem trusted_right (pair : ShowsCode shows codes left right)
    : collectAll ownTrusted right = [] := by
  induction pair with
  | nil => rfl
  | code _ _ ih | text _ _ ih =>
      rw [collectAll_cons, collect_text, ih]
      rfl
  | fragment _ _ below rest =>
      rw [collectAll_cons, collect_fragment, below, rest]
      rfl
  | element _ _ _ _ below rest =>
      rw [collectAll_cons, collect_element, below, rest]
      rfl

/-- With its code in place of its trusted markup the first side becomes the second one. -/
theorem replaceTrustedAll_eq (pair : ShowsCode shows codes left right) (texts : List String)
    : replaceTrustedAll (codes.map (·.literal) ++ texts) left = (right, texts) := by
  induction pair generalizing texts with
  | nil => rfl
  | code _ _ ih =>
      simp only [List.map_cons, List.cons_append, replaceTrustedAll, replaceTrusted, ih]
  | text _ _ ih => simp only [replaceTrustedAll, replaceTrusted, ih]
  | fragment _ _ below rest =>
      simp only [List.map_append, List.append_assoc, replaceTrustedAll, replaceTrusted, below, rest]
  | element _ _ _ _ below rest =>
      simp only [List.map_append, List.append_assoc, replaceTrustedAll, replaceTrusted, below, rest]

end ShowsCode

end Markup

namespace Table

open Markup

variable {shows : Code → String → Prop} {codes more : List Code}

/-- Rows of a table show the same code if their cells do. -/
theorem showsCode_rowMarkup (cellName : String) {left right : List Markup}
    (pair : ShowsCode shows codes left right)
    : ShowsCode shows codes [rowMarkup cellName left] [rowMarkup cellName right] :=
  (pair.map_wrap cellName).enclose (.html "tr") .empty

/-- Tables show the code of their headers and then that of their rows. -/
theorem showsCode_toMarkup {left right : Table Markup}
    (headers : ShowsCode shows codes left.headers right.headers)
    (rows : ShowsCode shows more (left.rows.map (rowMarkup "td")) (right.rows.map (rowMarkup "td")))
    : ShowsCode shows (codes ++ more) [left.toMarkup] [right.toMarkup] := by
  have head := (showsCode_rowMarkup "th" headers).enclose (.html "thead") .empty
  have body := rows.enclose (.html "tbody") .empty
  exact (head.append body).enclose (.html "table") .empty

end Table

end Docpress
