import Docpress.Markup.Json
import Docpress.Proofs.Json.Compact
import Docpress.Proofs.Json.Reading
import Docpress.Proofs.Markup.Preorder

/-!
The JSON form of an output tree tells all there is to the tree. Any reader of JSON gets it back from the
compact text, if only navigation links have their name.
-/

namespace Docpress

-----------------------------------------------------------------------------------------
-- Trees out of their JSON form
-----------------------------------------------------------------------------------------

/-- The tag of a name in JSON. -/
def Tag.ofJsonName (name : String) : Tag :=
  if name = "NavLink" then .navLink else .html name

/-- A tag is told by its name in JSON, unless it is an element with the name of navigation links. -/
theorem Tag.ofJsonName_jsonName {tag : Tag} (other : tag ≠ .html "NavLink")
    : Tag.ofJsonName tag.jsonName = tag := by
  unfold Tag.ofJsonName
  cases tag with
  | navLink => rfl
  | html name => exact if_neg fun same => other (congrArg Tag.html same)

namespace Attributes

/-- An attribute, if the value of a member is a string. -/
def attribute? : String × Json → Option (String × String)
  | (key, .string value) => some (key, value)
  | _ => none

/-- The attributes of an object. Each key must stand once and have a string. -/
def ofMembers? (members : List (String × Json)) : Option Attributes := do
  let entries ← members.mapM attribute?
  if distinct : (entries.map Prod.fst).Nodup then some ⟨entries, distinct⟩ else none

/-- The entries of attributes are read back from the members of an object, by induction on the entries.
-/
theorem mapM_attribute? (entries : List (String × String))
    : (entries.map fun entry => (entry.1, Json.string entry.2)).mapM attribute? = some entries := by
  induction entries with
  | nil => rfl
  | cons entry rest ih =>
      rw [List.map_cons, List.mapM_cons, ih]
      rfl

/-- Attributes are read back from the members of an object, since no key stands twice. -/
theorem ofMembers?_entries (attrs : Attributes)
    : ofMembers? (attrs.entries.map fun entry => (entry.1, .string entry.2)) = some attrs := by
  unfold ofMembers?
  rw [mapM_attribute?]
  exact dif_pos attrs.distinct

end Attributes

namespace Markup

mutual

/-- The tree of a JSON form. -/
def ofJson? : Json → Option Markup
  | .object [("element", .object
      [("tag", .string name), ("attrs", .object attrs), ("children", .array children)])] => do
    let attrs ← Attributes.ofMembers? attrs
    let children ← listOfJson? children
    return .element (.ofJsonName name) attrs children
  | .object [("text", .string value)] => some (.text value)
  | .object [("trusted", .string markup)] => some (.trusted markup)
  | .object [("fragment", .array children)] => (listOfJson? children).map .fragment
  | _ => none

/-- The trees of a list of JSON forms. -/
def listOfJson? : List Json → Option (List Markup)
  | [] => some []
  | child :: rest => do
    let child ← ofJson? child
    let rest ← listOfJson? rest
    return child :: rest

end

/-- No element has the name by which navigation links are told in JSON, apart from these. -/
def NavLinksApart (tree : Markup) : Prop :=
  ∀ attrs children, .element (.html "NavLink") attrs children ∉ tree.preorder

mutual

/-- The tree is in its JSON form, by induction on the tree. -/
theorem ofJson?_toJson : (tree : Markup) → NavLinksApart tree → ofJson? tree.toJson = some tree
  | .text value, _ => rfl
  | .trusted markup, _ => rfl
  | .fragment children, apart => by
      have read := listOfJson?_listToJson children fun attrs inner member =>
        apart attrs inner (List.mem_cons_of_mem _ member)
      rw [toJson, ofJson?, read]
      rfl
  | .element tag attrs children, apart => by
      have read := listOfJson?_listToJson children fun attrs inner member =>
        apart attrs inner (List.mem_cons_of_mem _ member)
      have other : tag ≠ .html "NavLink" := by
        rintro rfl
        exact apart attrs children List.mem_cons_self
      rw [toJson, Attributes.toJson, ofJson?, Attributes.ofMembers?_entries, read]
      dsimp only [Option.bind_eq_bind, Option.bind_some]
      rw [Tag.ofJsonName_jsonName other]
      rfl

/-- Trees in a row are read back from their JSON forms, by induction on the row. -/
theorem listOfJson?_listToJson : (trees : List Markup)
    → (∀ attrs children, .element (.html "NavLink") attrs children ∉ preorderAll trees)
    → listOfJson? (listToJson trees) = some trees
  | [], _ => rfl
  | tree :: rest, apart => by
      have first := ofJson?_toJson tree fun attrs children member =>
        apart attrs children (List.mem_append_left _ member)
      have others := listOfJson?_listToJson rest fun attrs children member =>
        apart attrs children (List.mem_append_right _ member)
      rw [listToJson, listOfJson?, first, others]
      rfl

end

-----------------------------------------------------------------------------------------
-- The values in a JSON form
-----------------------------------------------------------------------------------------

/-- What JSON forms are made of: strings, arrays, and objects whose keys are distinct. -/
inductive FormPart : Json → Prop where
  | string (text : String)
    : FormPart (.string text)
  | array (items : List Json)
    : FormPart (.array items)
  | object {members : List (String × Json)} (distinct : (members.map Prod.fst).Nodup)
    : FormPart (.object members)

/-- A part of a form is read back whatever is made of numbers, as it is no number. -/
theorem FormPart.readsBack {part : Json} (isPart : FormPart part)
    (number : Json.Numeral → Option Json)
    : Json.ReadsBack number part := by
  cases isPart <;> trivial

/-- A string is a part of forms. -/
theorem formPart_string (text : String) : ∀ part ∈ (Json.string text).preorder, FormPart part := by
  intro part member
  rw [List.mem_singleton.mp member]
  exact .string text

/-- An array is made of parts of forms if its items are. -/
theorem formPart_array {items : List Json} (below : ∀ part ∈ Json.preorderItems items, FormPart part)
    : ∀ part ∈ (Json.array items).preorder, FormPart part := by
  intro part member
  rcases List.mem_cons.mp member with rfl | inner
  · exact .array items
  · exact below part inner

/-- An object is made of parts of forms if its keys are distinct and its values are. -/
theorem formPart_object {members : List (String × Json)} (distinct : (members.map Prod.fst).Nodup)
    (below : ∀ member ∈ members, ∀ part ∈ member.2.preorder, FormPart part)
    : ∀ part ∈ (Json.object members).preorder, FormPart part := by
  intro part member
  rcases List.mem_cons.mp member with rfl | inner
  · exact .object distinct
  · obtain ⟨member, listed, inner⟩ := Json.mem_preorderMembers.mp inner
    exact below member listed part inner

/-- The JSON form of attributes is made of parts of forms: their keys are distinct, and their values
strings.
-/
theorem formPart_attributes (attrs : Attributes) : ∀ part ∈ attrs.toJson.preorder, FormPart part := by
  refine formPart_object ?_ fun member listed => ?_
  · rw [List.map_map]
    exact attrs.distinct
  · obtain ⟨entry, _, rfl⟩ := List.mem_map.mp listed
    exact formPart_string entry.2

/-- An object with one member, as each node of a tree has one. -/
theorem formPart_node {key : String} {value : Json} (below : ∀ part ∈ value.preorder, FormPart part)
    : ∀ part ∈ (Json.object [(key, value)]).preorder, FormPart part := by
  refine formPart_object (List.pairwise_singleton _ key) fun member listed => ?_
  rw [List.mem_singleton.mp listed]
  exact below

mutual

/-- A JSON form is made of nothing else, by induction on the tree. -/
theorem formPart_toJson : (tree : Markup) → ∀ part ∈ tree.toJson.preorder, FormPart part
  | .text value => formPart_node (formPart_string value)
  | .trusted markup => formPart_node (formPart_string markup)
  | .fragment children => formPart_node (formPart_array (formPart_listToJson children))
  | .element tag attrs children => by
      have below := formPart_array (formPart_listToJson children)
      refine formPart_node (formPart_object (by simp) fun member listed => ?_)
      simp only [List.mem_cons, List.not_mem_nil, or_false] at listed
      rcases listed with rfl | rfl | rfl
      · exact formPart_string tag.jsonName
      · exact formPart_attributes attrs
      · exact below

/-- The JSON forms of trees in a row are made of parts of forms, by induction on the row. -/
theorem formPart_listToJson : (trees : List Markup)
    → ∀ part ∈ Json.preorderItems (listToJson trees), FormPart part
  | [] => nofun
  | tree :: rest => by
      intro part member
      rcases List.mem_append.mp member with first | others
      · exact formPart_toJson tree part first
      · exact formPart_listToJson rest part others

end

/-- The compact text of a tree is its JSON form. -/
theorem denotes_toJson (number : Json.Numeral → Option Json) (tree : Markup)
    : Json.Denotes number tree.toJson.compact.toList tree.toJson :=
  (Json.written_compact tree.toJson fun part member =>
    (formPart_toJson tree part member).readsBack number).denotes

/-- No key stands twice in any object of the JSON form of a tree. -/
theorem keysDistinct_toJson (tree : Markup) : tree.toJson.KeysDistinct := by
  intro members member
  cases formPart_toJson tree _ member with
  | object distinct => exact distinct

/-- The compact text of a tree is JSON and has no key twice in an object. Each reader of JSON gets the
tree back from it, with the attributes in order, all characters of the texts, and text told from trusted
markup; so no other tree has the same text.
-/
theorem json_text_faithful {tree : Markup} (apart : NavLinksApart tree)
    : (∀ number, Json.Denotes number tree.toJson.compact.toList tree.toJson)
      ∧ (∀ number value, Json.Denotes number tree.toJson.compact.toList value → value.KeysDistinct)
      ∧ (∀ read, Json.Conforming read → (read tree.toJson.compact).bind ofJson? = some tree)
      ∧ ∀ other, NavLinksApart other → other.toJson.compact = tree.toJson.compact → other = tree := by
  have readBack {read : String → Option Json} (conforming : Json.Conforming read) {tree : Markup}
      (apart : NavLinksApart tree)
      : (read tree.toJson.compact).bind ofJson? = some tree := by
    rw [conforming _ _ (denotes_toJson _ tree) (keysDistinct_toJson tree), Option.bind_some]
    exact ofJson?_toJson tree apart
  refine ⟨fun number => denotes_toJson number tree, ?_, ?_, ?_⟩
  · intro number value denotes
    rw [denotes.unique (denotes_toJson number tree)]
    exact keysDistinct_toJson tree
  · intro read conforming
    exact readBack conforming apart
  · -- Both trees are what one and the same reader gets from the text.
    intro other otherApart same
    have known := readBack Json.conforming_read? otherApart
    rw [same, readBack Json.conforming_read? apart] at known
    exact (Option.some.inj known).symm

/-- A link with all sorts of characters, to text and to trusted markup. -/
def linkSample : Markup :=
  .element .navLink (.ofList [("href", "/a\"b\\c"), ("title", "\x01\x1f\né")])
    [.text "<b>", .trusted "<b>", .fragment []]

/-- A link with quotes, control characters and trusted markup is told by its JSON text. -/
theorem json_text_faithful_of_linkSample
    : NavLinksApart linkSample
      ∧ linkSample.toJson.compact
        = "\x7b\"element\":\x7b\"tag\":\"NavLink\",\"attrs\":\x7b\"href\":\"/a\\\"b\\\\c\","
          ++ "\"title\":\"\\u0001\\u001f\\né\"\x7d,\"children\":[\x7b\"text\":\"<b>\"\x7d,"
          ++ "\x7b\"trusted\":\"<b>\"\x7d,\x7b\"fragment\":[]\x7d]\x7d\x7d"
      ∧ Json.Conforming (Json.read? fun _ => none)
      ∧ (Json.read? (fun _ => none) linkSample.toJson.compact).bind ofJson? = some linkSample
      ∧ ∀ other,
          NavLinksApart other
          → other.toJson.compact = linkSample.toJson.compact
          → other = linkSample := by
  have apart : NavLinksApart linkSample := by
    intro attrs children member
    simp [linkSample, preorder, preorderAll] at member
  obtain ⟨_, _, readBack, unique⟩ := json_text_faithful apart
  exact ⟨apart, by decide +kernel, Json.conforming_read?, readBack _ Json.conforming_read?, unique⟩

end Markup

end Docpress
