import Docpress.Proofs.Rendering.Runs

/-!
The output of single nodes when no renderer is overridden. Each kind of node has a shell that is
filled with the output of its children; only code can fail, and only tables look at their cells.
-/

namespace Docpress

/-- Whether the standard output of a node shows the output of its children. -/
def Kind.keepsChildren : Kind → Bool
  | .text _ | .image .. | .code .. | .html _ | .thematicBreak | .softBreak | .lineBreak => false
  | _ => true

/-- What the standard output of a node puts around the output of its children. -/
inductive Shell where
  /-- Output that shows no children. -/
  | leaf (markup : Markup)
  | fragment
  /-- An element in which `lead` stands before the children. -/
  | element (tag : Tag) (attrs : Attributes) (lead : List Markup)

namespace Shell

/-- The output of a node with the given output of its children. -/
def fill : Shell → List Markup → Markup
  | .leaf markup, _ => markup
  | .fragment, children => .fragment children
  | .element tag attrs lead, children => .element tag attrs (lead ++ children)

/-- The shell of an element with a plain name and no attributes. -/
def wrap (name : String) : Shell :=
  .element (.html name) .empty []

/-- The empty anchor at the start of a heading. -/
def headingAnchor (id : String) : Markup :=
  .elem "a" ((Attributes.empty.set "href" ("#" ++ id)).set "class" Renderer.anchorClass) []

/-- The shell of a heading. Only the levels from 1 to 6 get an identifier and an anchor. -/
def heading (id : String) (level : Nat) : Shell :=
  if (NodeType.heading? level).isSome then
    .element (.html ("h" ++ toString level)) (Attributes.empty.set "id" id) [headingAnchor id]
  else
    wrap ("h" ++ toString level)

/-- The attributes of an image, under those that the author gives. -/
def imageAttributes (src alt : String) (title : Option String) (attrs : Attributes) : Attributes :=
  let source := ((Attributes.empty.set "class" Renderer.imageClass).set "src" src).set "alt" alt
  let titled := match title with
    | some title => source.set "title" title
    | none => source
  titled.merge attrs

/-- The attributes of a link, with its title unless the author gives one. -/
def linkAttributes (href title : Option String) (attrs : Attributes) : Attributes :=
  match title with
  | some title => (Link.attributes href attrs).setDefault "title" title
  | none => Link.attributes href attrs

/-- The shell of a kind of node for a heading identifier. Code is highlighted under `cx`. -/
def ofKind (cx : RenderContext) (id : String) : Kind → Except RenderError Shell
  | .document | .tableCell | .other _ => .ok .fragment
  | .paragraph => .ok (wrap "p")
  | .heading level => .ok (heading id level)
  | .text value => .ok (.leaf (.text value))
  | .emphasis => .ok (wrap "em")
  | .strong => .ok (wrap "strong")
  | .strikethrough => .ok (wrap "del")
  | .link href title attrs => .ok (.element (Link.tag href) (linkAttributes href title attrs) [])
  | .image src alt title attrs =>
    .ok (.leaf (.elem "img" (imageAttributes src alt title attrs) []))
  | .code literal language attrs =>
    (Renderer.codeContent cx literal language).map fun content =>
      .leaf (.elem "code" attrs [content])
  | .pre => .ok (wrap "pre")
  | .blockQuote => .ok (wrap "blockquote")
  | .list true start => .ok (.element (.html "ol") (PlainElement.listAttributes start) [])
  | .list false _ => .ok (wrap "ul")
  | .listItem => .ok (wrap "li")
  | .thematicBreak => .ok (.leaf (.wrap "hr" []))
  | .softBreak => .ok (.leaf (.text "\n"))
  | .lineBreak => .ok (.leaf (.wrap "br" []))
  | .html markup => .ok (.leaf (.text markup))

end Shell

/-- Code shows as text if highlighting is off, and otherwise as what the highlighter makes of it. -/
theorem codeContent_eq_ok_iff {cx : RenderContext} {literal : String} {language : Option String}
    {content : Markup}
    : Renderer.codeContent cx literal language = .ok content
      ↔ cx.options.highlightCode = false ∧ content = .text literal
        ∨ cx.options.highlightCode = true
          ∧ ∃ manager markup,
              cx.highlighting = some manager
              ∧ manager.highlight literal language = .ok markup
              ∧ content = .trusted markup := by
  unfold Renderer.codeContent
  cases cx.options.highlightCode with
  | false => simp [eq_comm]
  | true =>
      cases cx.highlighting with
      | none => simp
      | some manager =>
          cases result : manager.highlight literal language with
          | error error => simp [result]
          | ok markup => simp [result, eq_comm]

/-- The standard renderers fill the shell of a node's kind. -/
theorem dispatch_plain (cx : RenderContext) (kind : Kind) (nodes : List Node)
    (children : List Markup) (anchor : Option String) (nestedIds : List String)
    : dispatch .standard cx
          {
            node := .plain kind nodes
            children := children
            anchor := anchor
            nestedIds := nestedIds
          }
      = (Shell.ofKind cx (anchor.getD (slugify (Node.textContent (.plain kind nodes)))) kind).map
          (·.fill children) := by
  cases kind with
  | heading level =>
      match level with
      | 0 | 1 | 2 | 3 | 4 | 5 | 6 => rfl
      | level + 7 => rfl
  | link href title attrs => cases title <;> rfl
  | image src alt title attrs => cases title <;> rfl
  | code literal language attrs =>
      change Renderer.codeContent cx literal language >>= (fun content =>
        Except.ok (Markup.elem "code" attrs [content])) = _
      simp only [Shell.ofKind]
      cases Renderer.codeContent cx literal language <;> rfl
  | list ordered start => cases ordered <;> rfl
  | _ => rfl

/-- The dispatch of a table checks its shape and shows its cells. -/
theorem dispatch_table (cx : RenderContext) (children headers : List Node)
    (rows : List (List Node)) (rendered : List Markup) (cells : Table Markup)
    (nestedIds : List String)
    : dispatch .standard cx
          {
            node := .table children headers rows
            children := rendered
            table := some cells
            nestedIds := nestedIds
          }
      = (Renderer.checkShape cx.options.tableMode cells).map fun _ => cells.toMarkup := by
  change Renderer.checkShape cx.options.tableMode cells >>= (fun _ =>
    Except.ok cells.toMarkup) = _
  cases Renderer.checkShape cx.options.tableMode cells <;> rfl

/-- Which row is the first ragged one depends on the lengths of the rows alone, by induction on them. -/
theorem firstRaggedFrom?_congr {α β : Type} {rows : List (List α)} {rows' : List (List β)}
    (lengths : rows.map List.length = rows'.map List.length) (expected index : Nat)
    : Table.firstRaggedFrom? expected index rows = Table.firstRaggedFrom? expected index rows' := by
  induction rows generalizing rows' index with
  | nil =>
      rw [List.map_eq_nil_iff.mp lengths.symm]
      rfl
  | cons row rows ih =>
      cases rows' with
      | nil => cases lengths
      | cons row' rows' =>
          obtain ⟨here, later⟩ := List.cons.inj lengths
          rw [Table.firstRaggedFrom?, Table.firstRaggedFrom?, here, ih later]

/-- The check of a table looks at the lengths of its rows only, whatever the cells are. -/
theorem checkShape_congr {α β : Type} (mode : TableMode) {headers : List α} {headers' : List β}
    {rows : List (List α)} {rows' : List (List β)} (wide : headers.length = headers'.length)
    (lengths : rows.map List.length = rows'.map List.length)
    : Renderer.checkShape mode (Table.mk headers rows)
      = Renderer.checkShape mode (Table.mk headers' rows') := by
  have ragged : (Table.mk headers rows).firstRagged? = (Table.mk headers' rows').firstRagged? := by
    rw [Table.firstRagged?, Table.firstRagged?, wide, firstRaggedFrom?_congr lengths]
  unfold Renderer.checkShape
  rw [ragged, wide]

-----------------------------------------------------------------------------------------
-- What the standard renderers refuse
-----------------------------------------------------------------------------------------

/-- The errors of standard renderers: code that cannot be highlighted, and a table that is not in
shape.
-/
inductive StandardFault : RenderError → Prop where
  | highlight (error : HighlightError)
    : StandardFault (.highlight error)
  | raggedTable (row expected found : Nat)
    : StandardFault (.raggedTable row expected found)

/-- A node without cells fails only by its code, if this is to be highlighted. -/
theorem Shell.fault_of_ofKind {cx : RenderContext} {id : String} {kind : Kind} {error : RenderError}
    (failure : ofKind cx id kind = .error error)
    : StandardFault error := by
  cases kind with
  | code literal language attrs =>
      have refused := Fallible.map_eq_error_iff.mp failure
      unfold Renderer.codeContent at refused
      split at refused
      · split at refused
        · cases refused
          exact .highlight _
        · split at refused <;> cases refused
          exact .highlight _
      · cases refused
  | list ordered start => cases ordered <;> cases failure
  | _ => cases failure

/-- A table fails only by a ragged row. -/
theorem fault_of_checkShape {α : Type} {mode : TableMode} {table : Table α} {error : RenderError}
    (failure : Renderer.checkShape mode table = .error error)
    : StandardFault error := by
  unfold Renderer.checkShape at failure
  split at failure
  · cases failure
  · split at failure <;> cases failure
    exact .raggedTable _ _ _

/-- All faults of the standard renderers are of these two sorts. -/
theorem standard_faults (cx : RenderContext) : FaultsSatisfy .standard cx StandardFault where
  plain := by
    intro kind nodes children anchor nestedIds error failure
    rw [dispatch_plain] at failure
    exact Shell.fault_of_ofKind (Fallible.map_eq_error_iff.mp failure)
  table := by
    intro children headers rows rendered cells nestedIds error failure
    rw [dispatch_table] at failure
    exact fault_of_checkShape (Fallible.map_eq_error_iff.mp failure)

end Docpress
