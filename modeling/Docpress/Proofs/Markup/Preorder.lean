import Docpress.Table

/-!
Output trees in document order, and what is read off their nodes in that order.
-/

namespace Docpress.Markup

mutual

/-- The nodes of an output tree in document order, each before what stands in it. -/
def preorder : Markup → List Markup
  | .element tag attrs children => .element tag attrs children :: preorderAll children
  | .text value => [.text value]
  | .trusted markup => [.trusted markup]
  | .fragment children => .fragment children :: preorderAll children

/-- The nodes of a list of output trees in document order. -/
def preorderAll : List Markup → List Markup
  | [] => []
  | markup :: rest => preorder markup ++ preorderAll rest

end

/-- A tree is the first of its own parts. -/
theorem mem_preorder_self (markup : Markup) : markup ∈ markup.preorder := by
  cases markup <;> simp [preorder]

/-- A part of trees in a row is a part of one of them, by induction on the row. -/
theorem mem_preorderAll {markup : Markup} {markups : List Markup}
    : markup ∈ preorderAll markups ↔ ∃ root ∈ markups, markup ∈ root.preorder := by
  induction markups with
  | nil => simp [preorderAll]
  | cons root rest ih => simp [preorderAll, ih]

variable {α : Type} (own : Markup → List α)

/-- What `own` reads off the nodes of an output tree, in document order. -/
def collect (markup : Markup) : List α :=
  markup.preorder.flatMap own

/-- What `own` reads off the nodes of a list of output trees, in document order. -/
def collectAll (markups : List Markup) : List α :=
  (preorderAll markups).flatMap own

/-- What is collected from an element: its own, and then what its children give. -/
@[simp]
theorem collect_element (tag : Tag) (attrs : Attributes) (children : List Markup)
    : collect own (.element tag attrs children)
      = own (.element tag attrs children) ++ collectAll own children := by
  rw [collect, preorder, List.flatMap_cons, collectAll]

/-- What is collected from a fragment: its own, and then what its children give. -/
@[simp]
theorem collect_fragment (children : List Markup)
    : collect own (.fragment children)
      = own (.fragment children) ++ collectAll own children := by
  rw [collect, preorder, List.flatMap_cons, collectAll]

/-- What is collected from a text is its own. -/
@[simp]
theorem collect_text (value : String) : collect own (.text value) = own (.text value) := by
  rw [collect, preorder, List.flatMap_singleton]

/-- What is collected from trusted markup is its own. -/
@[simp]
theorem collect_trusted (markup : String)
    : collect own (.trusted markup) = own (.trusted markup) := by
  rw [collect, preorder, List.flatMap_singleton]

/-- Nothing is collected from no trees. -/
@[simp]
theorem collectAll_nil : collectAll own [] = [] := rfl

/-- What is collected from trees in a row: from the first, and then from the others. -/
@[simp]
theorem collectAll_cons (markup : Markup) (rest : List Markup)
    : collectAll own (markup :: rest) = collect own markup ++ collectAll own rest := by
  rw [collectAll, preorderAll, List.flatMap_append, collect, collectAll]

/-- What is collected from two rows of trees: from the one, and then from the other. -/
@[simp]
theorem collectAll_append (left right : List Markup)
    : collectAll own (left ++ right) = collectAll own left ++ collectAll own right := by
  induction left with
  | nil => rfl
  | cons markup rest ih =>
      rw [List.cons_append, collectAll_cons, collectAll_cons, ih, List.append_assoc]

/-- Elements of the given names have nothing of their own to be read. -/
def Ignores (names : List String) : Prop :=
  ∀ name ∈ names, ∀ children, own (.wrap name children) = []

variable {own}

/-- From an element that is ignored nothing but what its children give is collected. -/
theorem Ignores.collect_wrap {names : List String} (ignores : Ignores own names) {name : String}
    (listed : name ∈ names) (children : List Markup)
    : collect own (.wrap name children) = collectAll own children := by
  have nothing := ignores name listed children
  simp only [wrap, elem] at nothing ⊢
  rw [collect_element, nothing, List.nil_append]

end Docpress.Markup

namespace Docpress.Table

/-- The names of the elements around the cells of a table. -/
def frameNames : List String :=
  ["table", "thead", "tbody", "tr", "th", "td"]

variable {α : Type} {own : Markup → List α}

/-- The frame of a row is ignored, so that only its cells give something, by induction on the cells. -/
theorem collect_rowMarkup (ignores : Markup.Ignores own frameNames) {cellName : String}
    (listed : cellName ∈ frameNames) (cells : List Markup)
    : Markup.collect own (rowMarkup cellName cells) = Markup.collectAll own cells := by
  rw [rowMarkup, ignores.collect_wrap (by simp [frameNames])]
  induction cells with
  | nil => rfl
  | cons cell rest ih =>
      rw [List.map_cons, Markup.collectAll_cons, ignores.collect_wrap listed,
        Markup.collectAll_cons, Markup.collectAll_nil, List.append_nil,
        Markup.collectAll_cons, ih]

/-- A table shows its cells and nothing else: the headers, then the rows. -/
theorem collect_toMarkup (ignores : Markup.Ignores own frameNames) (table : Table Markup)
    : Markup.collect own table.toMarkup
      = Markup.collectAll own table.headers ++ Markup.collectAll own table.rows.flatten := by
  have rows (rows : List (List Markup))
      : Markup.collectAll own (rows.map (rowMarkup "td"))
        = Markup.collectAll own rows.flatten := by
    induction rows with
    | nil => rfl
    | cons row rest ih =>
        rw [List.map_cons, Markup.collectAll_cons, List.flatten_cons,
          Markup.collectAll_append, ih, collect_rowMarkup ignores (by simp [frameNames])]
  rw [toMarkup, ignores.collect_wrap (by simp [frameNames])]
  simp only [Markup.collectAll_cons, Markup.collectAll_nil, List.append_nil]
  rw [ignores.collect_wrap (by simp [frameNames]), ignores.collect_wrap (by simp [frameNames]),
    rows, Markup.collectAll_cons, Markup.collectAll_nil, List.append_nil,
    collect_rowMarkup ignores (by simp [frameNames])]

end Docpress.Table
