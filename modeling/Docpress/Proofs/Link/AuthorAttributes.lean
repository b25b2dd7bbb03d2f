import Docpress.Link
import Docpress.Proofs.Attributes

/-!
Links with attributes of their authors'. The class of a link goes by the target that it is made for, and
an author who gives another one among the attributes changes the target afterwards. The link follows the
policy for what it then leads to exactly if the other target does no harm; all other attributes of the
author are kept, in their order.
-/

namespace Docpress.Link

/-- The attribute of the target, if there is a target. -/
def targetKeys : Option String → List String
  | some _ => ["href"]
  | none => []

/-- The target of a link with the attributes of its author over it. -/
def merged (href : Option String) (author : Attributes) : Attributes :=
  (match href with
    | some href => Attributes.empty.set "href" href
    | none => .empty).merge author

/-- A link has its address and the author's attributes, and more only if its address leads elsewhere: a
target and a relation, whatever the author says of them.
-/
theorem attributes_eq (href : Option String) (author : Attributes)
    : attributes href author
      = match classify href with
        | .external => ((merged href author).set "target" "_blank").set "rel" externalRel
        | .internalPath | .inPageAnchor => merged href author := by
  cases href <;> rfl

/-- An attribute is the author's, or the address where the author gives none. -/
theorem get?_merged (href : Option String) (author : Attributes) (key : String)
    : (merged href author).get? key
      = (author.get? key).or (if key = "href" then href else none) := by
  unfold merged
  rw [Attributes.get?_merge]
  cases href with
  | none => rw [ite_self]; rfl
  | some href => rw [Attributes.get?_set]; rfl

/-- The address stands first if there is one, and the author's other attributes follow in their order. -/
theorem keys_merged (href : Option String) (author : Attributes)
    : (merged href author).keys
      = targetKeys href ++ author.keys.filter (· ∉ targetKeys href) := by
  unfold merged
  rw [Attributes.keys_merge]
  cases href <;> rfl

/-- What stands under a key: what every link of the class has, else what the author gives, else the
target.
-/
theorem get?_attributes_author (href : Option String) (author : Attributes) (key : String)
    : (attributes href author).get? key
      = if classify href = .external ∧ key = "rel" then some externalRel
        else if classify href = .external ∧ key = "target" then some "_blank"
        else (author.get? key).or (if key = "href" then href else none) := by
  rw [attributes_eq, ← get?_merged]
  cases classify href with
  | external => simp only [Attributes.get?_set, true_and]
  | internalPath | inPageAnchor => simp only [reduceCtorEq, false_and, if_false]

/-- The keys of the target and of the author come first. -/
theorem keys_merged_first (href : Option String) (author : Attributes)
    : (merged href author).keys <+: (attributes href author).keys := by
  rw [attributes_eq]
  cases classify href with
  | external =>
      exact (Attributes.keys_prefix_set _ _ _).trans (Attributes.keys_prefix_set _ _ _)
  | internalPath | inPageAnchor => exact List.prefix_rfl

-----------------------------------------------------------------------------------------
-- The target that a link carries
-----------------------------------------------------------------------------------------

/-- The policy for links, by the target that an element carries: the site follows it exactly if it is a
path, and what is neither a path nor an anchor opens in a new browsing context without an opener.
-/
structure FollowsTarget (tag : Tag) (attrs : Attributes) : Prop where
  routed : tag = .navLink ↔ classify (attrs.get? "href") = .internalPath
  opens
    : classify (attrs.get? "href") = .external
      → attrs.get? "target" = some "_blank" ∧ attrs.get? "rel" = some "noopener noreferrer"

/-- The target that a link has in the end: that of its author, if there is one. -/
def carried (href : Option String) (author : Attributes) : Option String :=
  (author.get? "href").or href

/-- A target among the attributes of an author does no harm: it is a path only in place of a path, and
leads elsewhere in place of an anchor only with what a link that leads elsewhere has.
-/
structure Harmless (href : Option String) (author : Attributes) : Prop where
  routed : classify (carried href author) = .internalPath ↔ classify href = .internalPath
  opens
    : classify href = .inPageAnchor → classify (carried href author) = .external
      → author.get? "target" = some "_blank" ∧ author.get? "rel" = some "noopener noreferrer"

/-- Attributes do no harm if the address that the link carries is of the class of the one that was looked
at.
-/
theorem harmless_of_same_class {href : Option String} {author : Attributes}
    (same : classify (carried href author) = classify href)
    : Harmless href author := by
  refine ⟨by rw [same], fun anchor elsewhere => ?_⟩
  rw [same, anchor] at elsewhere
  cases elsewhere

/-- An author who gives no address does no harm. -/
theorem harmless_of_no_target (href : Option String) {author : Attributes}
    (none : author.get? "href" = none)
    : Harmless href author := by
  apply harmless_of_same_class
  rw [carried, none, Option.none_or]

/-- The address in the attributes is the one that the link carries. -/
theorem get?_attributes_href (href : Option String) (author : Attributes)
    : (attributes href author).get? "href" = carried href author := by
  rw [get?_attributes_author, if_neg (by simp), if_neg (by simp), if_pos rfl, carried]

/-- A link is a navigation link just if its address is a path inside. -/
theorem tag_eq_navLink_iff (href : Option String)
    : tag href = .navLink ↔ classify href = .internalPath := by
  unfold tag
  cases classify href <;> simp

/-- A link is made as its address in the attributes asks for just if the author's attributes do no harm,
by cases on the classes of the two addresses.
-/
theorem followsTarget_iff (href : Option String) (author : Attributes)
    : FollowsTarget (tag href) (attributes href author) ↔ Harmless href author := by
  have leads := get?_attributes_href href author
  -- Only what leads elsewhere has a target and a `rel` of its own; the author may give them to the rest.
  have opens : (classify href ≠ .external
        → (attributes href author).get? "target" = author.get? "target"
          ∧ (attributes href author).get? "rel" = author.get? "rel")
      ∧ (classify href = .external
        → (attributes href author).get? "target" = some "_blank"
          ∧ (attributes href author).get? "rel" = some "noopener noreferrer") := by
    rw [get?_attributes_author, get?_attributes_author]
    constructor
    · intro other
      simp [other]
    · intro elsewhere
      simp [elsewhere, externalRel]
  constructor
  · intro follows
    refine ⟨?_, fun anchor elsewhere => ?_⟩
    · rw [← leads, ← follows.routed, tag_eq_navLink_iff]
    · obtain ⟨target, rel⟩ := opens.1 (by rw [anchor]; exact nofun)
      rw [← target, ← rel]
      exact follows.opens (leads ▸ elsewhere)
  · intro harmless
    refine ⟨?_, fun elsewhere => ?_⟩
    · rw [tag_eq_navLink_iff, leads, harmless.routed]
    · rw [leads] at elsewhere
      cases made : classify href with
      | external => exact opens.2 made
      | inPageAnchor =>
          obtain ⟨target, rel⟩ := opens.1 (by rw [made]; exact nofun)
          rw [target, rel]
          exact harmless.opens made elsewhere
      | internalPath => cases (harmless.routed.mpr made).symm.trans elsewhere

-----------------------------------------------------------------------------------------
-- The attributes of the author
-----------------------------------------------------------------------------------------

/-- The keys that an author gives besides that of the target. -/
def otherKeys (author : Attributes) : List String :=
  author.keys.filter (· ≠ "href")

/-- With an address the keys are that of the address and then the author's others. -/
theorem keys_merged_some (href : String) (author : Attributes)
    : (merged (some href) author).keys = "href" :: otherKeys author := by
  rw [keys_merged]
  simp [targetKeys, otherKeys]

/-- Without an address the keys are the author's. -/
theorem keys_merged_none (author : Attributes) : (merged none author).keys = author.keys := by
  rw [keys_merged]
  simp [targetKeys]

/-- The attributes of an author keep their order, the target apart. -/
theorem otherKeys_sublist (href : Option String) (author : Attributes)
    : (otherKeys author).Sublist (attributes href author).keys := by
  refine List.Sublist.trans ?_ (keys_merged_first href author).sublist
  cases href with
  | none =>
      rw [keys_merged_none]
      exact List.filter_sublist
  | some href =>
      rw [keys_merged_some]
      exact List.sublist_cons_self _ _

/-- The attributes of an author keep their order with the target among them exactly if it has no other
place to go to: there is no target to stand in for, or it comes first anyway.
-/
theorem keys_sublist_iff (href : Option String) (author : Attributes)
    : author.keys.Sublist (attributes href author).keys
      ↔ href = none ∨ author.get? "href" = none ∨ author.keys.head? = some "href" := by
  have absent : author.get? "href" = none ↔ "href" ∉ author.keys :=
    Attributes.get?_eq_none_iff author "href"
  have front := keys_merged_first href author
  constructor
  · intro inOrder
    cases href with
    | none => exact Or.inl rfl
    | some href =>
        rw [keys_merged_some] at front
        obtain ⟨later, split⟩ := front
        have distinct := (attributes (some href) author).nodup_keys
        rw [← split, List.cons_append] at inOrder distinct
        generalize author.keys = keys at absent inOrder
        -- The target comes first; an author's key for it is either that one or stands nowhere.
        cases inOrder with
        | cons _ behind =>
            have missing := mt behind.mem (List.nodup_cons.mp distinct).1
            exact Or.inr (Or.inl (absent.mpr missing))
        | cons_cons _ behind => exact Or.inr (Or.inr rfl)
  · intro stands
    cases href with
    | none =>
        rw [keys_merged_none] at front
        exact front.sublist
    | some href =>
        rw [keys_merged_some] at front
        rcases stands with none | missing | first
        · cases none
        · have all : otherKeys author = author.keys := by
            refine List.filter_eq_self.mpr fun key member => ?_
            have other : key ≠ "href" := fun same => absent.mp missing (same ▸ member)
            simpa using other
          rw [← all]
          exact otherKeys_sublist (some href) author
        · obtain ⟨rest, listed⟩ := List.head?_eq_some_iff.mp first
          have distinct := author.nodup_keys
          rw [listed] at distinct
          have others : otherKeys author = rest := by
            rw [otherKeys, listed, List.filter_cons_of_neg (by simp)]
            refine List.filter_eq_self.mpr fun key member => ?_
            have other : key ≠ "href" := fun same =>
              (List.nodup_cons.mp distinct).1 (same ▸ member)
            simpa using other
          rw [listed, ← others]
          exact front.sublist

/-- The element of a link follows the policy for the target that it carries exactly if no harm is done by
a target among the attributes of the author, as there is none without such a target. Whatever the
author gives besides what every link of the class has keeps its value, and it keeps its order as far
as the author's target does not take the place of another one.
-/
theorem follows_target_iff_harmless (href : Option String) (author : Attributes)
    (children : List Markup)
    : ∃ tag attrs,
        toMarkup href author children = .element tag attrs children
        ∧ attrs.get? "href" = carried href author
        ∧ (FollowsTarget tag attrs ↔ Harmless href author)
        ∧ (author.get? "href" = none → FollowsTarget tag attrs)
        ∧ (∀ key value,
            author.get? key = some value
            → (classify href = .external → key ≠ "target" ∧ key ≠ "rel")
            → attrs.get? key = some value)
        ∧ (otherKeys author).Sublist attrs.keys
        ∧ (author.keys.Sublist attrs.keys
          ↔ href = none ∨ author.get? "href" = none ∨ author.keys.head? = some "href") := by
  have follows := followsTarget_iff href author
  refine ⟨tag href, attributes href author, rfl, get?_attributes_href href author, follows,
    fun none => follows.mpr (harmless_of_no_target href none), ?_, otherKeys_sublist href author,
    keys_sublist_iff href author⟩
  intro key value given free
  have plain : ¬(classify href = .external ∧ key = "rel")
      ∧ ¬(classify href = .external ∧ key = "target") :=
    ⟨fun forced => (free forced.1).2 forced.2, fun forced => (free forced.1).1 forced.2⟩
  rw [get?_attributes_author, if_neg plain.1, if_neg plain.2, given, Option.some_or]

/-- What an author may add to a link to an anchor on the page. -/
def disguisedSample : Attributes :=
  .ofList [("href", "https://example.com"), ("target", "_blank")]

/-- The policy can be defeated: the link leads elsewhere and opens in a new browsing context, with an
opener.
-/
theorem disguised_target
    : ∃ tag attrs,
        toMarkup (some "#top") disguisedSample [] = .element tag attrs []
        ∧ attrs.entries = [("href", "https://example.com"), ("target", "_blank")]
        ∧ classify (attrs.get? "href") = .external
        ∧ ¬FollowsTarget tag attrs := by
  refine ⟨_, _, rfl, by decide +kernel, by decide +kernel, ?_⟩
  rw [followsTarget_iff]
  intro harmless
  have anchor : classify (some "#top") = .inPageAnchor := by decide +kernel
  have elsewhere : classify (carried (some "#top") disguisedSample) = .external := by decide +kernel
  have without : disguisedSample.get? "rel" = none := by decide +kernel
  cases without.symm.trans (harmless.opens anchor elsewhere).2

end Docpress.Link
