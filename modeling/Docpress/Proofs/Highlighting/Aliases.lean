import Docpress.Highlight
import Docpress.Proofs.Association
import Docpress.Proofs.Text.Lowercase
import Mathlib.Data.List.Nodup

/-!
Aliases of languages. A name is looked up in lower case, and the aliases are kept as they were given: one
in lower case is found in whatever case it is asked for, and one with a capital in it is never found.
-/

namespace Docpress

open Text

namespace HighlightConfig

/-- No two aliases are the same in lower case. -/
def AliasesDiffer (config : HighlightConfig) : Prop :=
  (config.aliases.map fun entry => lowercaseString entry.1).Nodup

/-- Aliases that differ in more than case are distinct. -/
theorem AliasesDiffer.distinct {config : HighlightConfig} (differ : config.AliasesDiffer)
    : (config.aliases.map Prod.fst).Nodup := by
  apply List.Nodup.of_map lowercaseString
  rw [List.map_map]
  exact differ

/-- Letter case makes no difference to what a name stands for. -/
theorem resolve_congr (config : HighlightConfig) {one other : String}
    (same : lowercaseString one = lowercaseString other)
    : config.resolve one = config.resolve other := by
  simp only [resolve, same]

/-- An alias with a capital in it is not found: in lower case it could only be another alias, from which
it does not differ enough.
-/
theorem resolve_alias {config : HighlightConfig} (differ : config.AliasesDiffer)
    {key language : String} (listed : (key, language) ∈ config.aliases)
    : config.resolve key
      = if lowercaseString key = key then language else lowercaseString key := by
  rw [resolve]
  split
  next lower =>
    have found := (Association.lookup_eq_some_iff_mem differ.distinct).mpr listed
    rw [lower, found, Option.getD_some]
  next capital =>
    have absent : config.aliases.lookup (lowercaseString key) = none := by
      rw [Option.eq_none_iff_forall_ne_some]
      intro other found
      have member := (Association.lookup_eq_some_iff_mem differ.distinct).mp found
      have same := List.inj_on_of_nodup_map differ member listed
        (lowercaseString_lowercaseString key)
      exact capital (Prod.mk.inj same).1
    rw [absent, Option.getD_none]

end HighlightConfig

/-- Code is highlighted alike for languages that differ in case only. -/
theorem HighlightManager.highlight_congr (manager : HighlightManager) (code : String)
    {one other : String} (same : lowercaseString one = lowercaseString other)
    : manager.highlight code (some one) = manager.highlight code (some other) := by
  have resolved := manager.config.resolve_congr same
  simp [highlight, resolved]

/-- In whatever case a name is written, an alias that is the same in lower case gives it its language
exactly if the alias itself is in lower case; otherwise the name stands for its own lower-case form,
which may happen to be that language. Code is highlighted alike under all such names.
-/
theorem alias_resolves_iff {config : HighlightConfig} (differ : config.AliasesDiffer)
    {key language : String} (listed : (key, language) ∈ config.aliases) {name : String}
    (same : lowercaseString name = lowercaseString key)
    : (config.resolve name = language
        ↔ lowercaseString key = key ∨ lowercaseString key = language)
      ∧ (lowercaseString key ≠ key → config.resolve name = lowercaseString name)
      ∧ ∀ highlighter code,
          HighlightManager.highlight ⟨highlighter, config⟩ code (some name)
          = HighlightManager.highlight ⟨highlighter, config⟩ code (some key) := by
  have resolved := (config.resolve_congr same).trans (config.resolve_alias differ listed)
  refine ⟨?_, ?_, fun highlighter code => HighlightManager.highlight_congr _ code same⟩
  · rw [resolved]
    split
    next lower => simp [lower]
    next capital => simp [capital]
  · intro capital
    rw [resolved, if_neg capital, same]

/-- Two aliases, one of which is in lower case. -/
def aliasSample : HighlightConfig where
  aliases := [("js", "javascript"), ("Objective-C", "c")]

/-- An alias of the sample is found in capitals. -/
theorem alias_resolves_of_aliasSample
    : aliasSample.AliasesDiffer
      ∧ ("js", "javascript") ∈ aliasSample.aliases
      ∧ lowercaseString "JS" = lowercaseString "js"
      ∧ aliasSample.resolve "JS" = "javascript" := by
  have differ : aliasSample.AliasesDiffer := by
    unfold HighlightConfig.AliasesDiffer
    decide +kernel
  have listed : ("js", "javascript") ∈ aliasSample.aliases := by simp [aliasSample]
  have same : lowercaseString "JS" = lowercaseString "js" := by decide +kernel
  have lower : lowercaseString "js" = "js" := by decide +kernel
  exact ⟨differ, listed, same, (alias_resolves_iff differ listed same).1.mpr (Or.inl lower)⟩

/-- An alias with a capital is not found in any letter case, nor as it is written. -/
theorem capital_alias_not_found
    : aliasSample.AliasesDiffer
      ∧ ("Objective-C", "c") ∈ aliasSample.aliases
      ∧ aliasSample.resolve "Objective-C" = "objective-c"
      ∧ aliasSample.resolve "Objective-C" ≠ "c" := by
  have differ : aliasSample.AliasesDiffer := by
    unfold HighlightConfig.AliasesDiffer
    decide +kernel
  have resolved : aliasSample.resolve "Objective-C" = "objective-c" := by decide +kernel
  refine ⟨differ, by simp [aliasSample], resolved, ?_⟩
  rw [resolved]
  decide

end Docpress
