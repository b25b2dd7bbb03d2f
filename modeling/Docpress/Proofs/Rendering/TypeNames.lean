import Docpress.Proofs.Rendering.Overrides
import Docpress.Proofs.Text.Decimal

/-!
The names by which the types of nodes are shown, and those by which renderers are given for them. A type
goes by the name it is shown under, apart from the types of nodes whose tags are names of other types:
known names stand for the known types.
-/

namespace Docpress

namespace NodeType

/-- The names of the known types. -/
def knownNames : List String :=
  namedTypes.map Prod.fst

/-- A tag that is no known name stands for a type of its own. -/
theorem ofName_of_unknown {tag : String} (unknown : tag ∉ knownNames) : ofName tag = .other tag := by
  have none : namedTypes.lookup tag = none := by
    simp only [List.lookup_eq_none_iff, bne_iff_ne]
    intro entry listed same
    exact unknown (List.mem_map.mpr ⟨entry, listed, same.symm⟩)
  rw [ofName, none, Option.getD_none]

/-- A known name stands for no type of an unknown tag. -/
theorem ofName_ne_other {name : String} (known : name ∈ knownNames) (tag : String)
    : ofName name ≠ .other tag := by
  have all : ∀ name ∈ knownNames, ofName name ≠ .other (ofName name).name := by decide
  intro same
  apply all name known
  rw [same, NodeType.name]

/-- Only tags that are names of known types stand for other types than their own. -/
theorem ofName_name_iff (type : NodeType)
    : ofName type.name = type ↔ ∀ tag, type = .other tag → tag ∉ knownNames := by
  cases type with
  | other tag =>
      constructor
      · intro same other here known
        cases here
        exact ofName_ne_other known tag same
      · intro unknown
        exact ofName_of_unknown (unknown tag rfl)
  | _ => exact iff_of_true (by decide) nofun

/-- The tag of a heading that has no type of its own is no known name: behind an `h` the known names have
no digits but those of the heading types.
-/
theorem headingTag_unknown {level : Nat} (none : heading? level = none)
    : "h" ++ toString level ∉ knownNames := by
  intro known
  have numbered : ∀ name ∈ knownNames,
      name.toList.head? = some 'h' → name.toList.tail.all Char.isDigit = true
      → ∃ level ∈ [1, 2, 3, 4, 5, 6], name = "h" ++ toString level := by
    decide +kernel
  have digits : (toString level).toList.all Char.isDigit = true := by
    rw [Nat.toString_eq_repr, Nat.toList_repr, List.all_eq_true]
    exact fun c member => Nat.isDigit_of_mem_toDigits (by decide) (by decide) member
  have spelled : ("h" ++ toString level).toList = 'h' :: (toString level).toList := by simp
  obtain ⟨typed, listed, same⟩ := numbered _ known (by rw [spelled]; rfl) (by rw [spelled]; exact digits)
  have equal : level = typed := Text.append_toString_nat_injective "h" same
  have found : ∀ level ∈ [1, 2, 3, 4, 5, 6], (heading? level).isSome = true := by decide
  have some := found typed listed
  rw [← equal, none] at some
  cases some

/-- Level by level, a heading type is one of six. -/
theorem heading?_ne_other (level : Nat) (tag : String) : heading? level ≠ some (.other tag) := by
  unfold heading?
  split <;> exact nofun

end NodeType

/-- Whether a node is some other construct with a tag that is the name of a known type. -/
def Node.BorrowsName (node : Node) : Prop :=
  ∃ tag children, node = .plain (.other tag) children ∧ tag ∈ NodeType.knownNames

/-- A node has the type of a tag for its tag, or for its level as a heading. -/
theorem Node.eq_of_type_eq_other {node : Node} {tag : String} (here : node.type = .other tag)
    : (∃ children, node = .plain (.other tag) children)
      ∨ ∃ level, NodeType.heading? level = none ∧ tag = "h" ++ toString level := by
  cases node with
  | table children headers rows => cases here
  | plain kind children =>
      cases kind with
      | other name =>
          cases here
          exact Or.inl ⟨children, rfl⟩
      | heading level =>
          rw [Node.type] at here
          cases typed : NodeType.heading? level with
          | none =>
              rw [typed] at here
              cases here
              exact Or.inr ⟨level, typed, rfl⟩
          | some type =>
              rw [typed, Option.getD_some] at here
              exact absurd (here ▸ typed) (NodeType.heading?_ne_other level tag)
      | list ordered start =>
          cases ordered <;> cases here
      | _ => cases here

/-- The name of a node's type stands for this type just if the node does not borrow it. -/
theorem Node.ofName_name_type_iff (node : Node)
    : NodeType.ofName node.type.name = node.type ↔ ¬node.BorrowsName := by
  rw [NodeType.ofName_name_iff]
  constructor
  · rintro unknown ⟨tag, children, rfl, known⟩
    exact unknown tag rfl known
  · intro own tag here known
    rcases Node.eq_of_type_eq_other here with ⟨children, rfl⟩ | ⟨level, untyped, rfl⟩
    · exact own ⟨tag, children, rfl, known⟩
    · exact NodeType.headingTag_unknown untyped known

namespace Overrides

/-- A renderer that is inserted for a type counts if none is inserted for the type after it. -/
theorem lastInserted?_of_later (earlier : List Insertion) {insertion : Insertion}
    {later : List Insertion} {type : NodeType} (named : insertion.name.resolve = type)
    (others : ∀ other ∈ later, other.name.resolve ≠ type)
    : lastInserted? (earlier ++ insertion :: later) type = some insertion.renderer := by
  induction later using List.reverseRecOn with
  | nil => rw [lastInserted?_concat, named, if_pos (beq_self_eq_true type)]
  | append_singleton later last ih =>
      have different := others last (by simp)
      rw [← List.cons_append, ← List.append_assoc, lastInserted?_concat,
        if_neg (by simpa using different.symm)]
      exact ih fun other member => others other (by simp [member])

/-- A renderer that is inserted for another type makes no difference. -/
theorem lastInserted?_of_other (earlier : List Insertion) {insertion : Insertion}
    (later : List Insertion) {type : NodeType} (other : insertion.name.resolve ≠ type)
    : lastInserted? (earlier ++ insertion :: later) type = lastInserted? (earlier ++ later) type := by
  have skipped : (insertion.name.resolve == type) = false := by simpa using other
  simp [lastInserted?, List.find?_append, skipped]

end Overrides

/-- The name under which the type of a node is shown stands for that type, unless the node is some other
construct with the name of a known type for its tag. The last renderer that is given under the name is
then the renderer of the node, and nodes of other types do not go by the name. In the other case the
name stands for the known type, and a renderer that is given under it makes no difference to the node.
-/
theorem shown_names_stand_for_types (node : Node)
    : (NodeType.ofName node.type.name = node.type ↔ ¬node.BorrowsName)
      ∧ (∀ earlier renderer later overrides,
          Overrides.BuiltBy (earlier ++ ⟨.tag node.type.name, renderer⟩ :: later) overrides
          → (¬node.BorrowsName
              → (∀ insertion ∈ later, insertion.name.resolve ≠ node.type)
              → (Registry.build (some overrides)).renderer? node.type = some renderer)
            ∧ (node.BorrowsName
              → (Registry.build (some overrides)).renderer? node.type
                = (Registry.build (some (.ofInsertions (earlier ++ later)))).renderer? node.type))
      ∧ ∀ other : Node,
          ¬node.BorrowsName → ¬other.BorrowsName → node.type ≠ other.type
          → node.type.name ≠ other.type.name
            ∧ NodeType.ofName node.type.name ≠ NodeType.ofName other.type.name := by
  have stands := node.ofName_name_type_iff
  refine ⟨stands, ?_, ?_⟩
  · intro earlier renderer later overrides built
    constructor
    · intro own others
      have named : (Insertion.mk (.tag node.type.name) renderer).name.resolve = node.type :=
        stands.mpr own
      rw [Registry.renderer?_build (.some built), Option.bind_some,
        Overrides.lastInserted?_of_later earlier named others, Option.some_or]
    · intro borrowed
      have elsewhere : (TypeName.tag node.type.name).resolve ≠ node.type := fun same =>
        stands.mp same borrowed
      have without : Overrides.BuiltBy (earlier ++ later) (.ofInsertions (earlier ++ later)) :=
        List.Perm.refl _
      rw [Registry.renderer?_build (.some built), Registry.renderer?_build (.some without),
        Option.bind_some, Option.bind_some, Overrides.lastInserted?_of_other earlier later elsewhere]
  · intro other own own' different
    have apart : NodeType.ofName node.type.name ≠ NodeType.ofName other.type.name := by
      rwa [stands.mpr own, other.ofName_name_type_iff.mpr own']
    exact ⟨fun same => apart (congrArg NodeType.ofName same), apart⟩

/-- Some other construct, with the tag of a paragraph. -/
def borrowedSample : Node := .plain (.other "p") [.text "x"]

/-- A renderer that is given under the name that is shown for the sample is that of paragraphs, which is
another type of the same name, and the sample is rendered without it.
-/
theorem borrowed_name_not_reached
    : let given : Overrides := .ofInsertions
        [⟨.tag borrowedSample.type.name, fun props _ => .ok (.wrap "kbd" props.children)⟩]
      NodeType.ofName borrowedSample.type.name ≠ borrowedSample.type
        ∧ NodeType.ofName borrowedSample.type.name = (Node.plain .paragraph []).type
        ∧ (Registry.build (some given)).renderer? borrowedSample.type = none
        ∧ (renderTree ⟨{}, none⟩ (some given) borrowedSample).toOption.map (·.tree.toHtml)
          = some "x" := by
  exact ⟨by decide, by decide, rfl, by decide +kernel⟩

end Docpress
