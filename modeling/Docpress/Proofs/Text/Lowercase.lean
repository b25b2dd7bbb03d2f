import Docpress.Proofs.Text.WhiteSpace
import Docpress.Text.Lowercase

/-!
Lower-casing. Blanks are their own lower-case forms, and a sigma does not look past them: a text with a
blank in it is lower-cased part by part. What is in lower case stays as it is.
-/

namespace Docpress.Text

/-- A character is in ranges if its code point is between the bounds of one of them. -/
theorem inRanges_iff {ranges : List (Nat × Nat)} {c : Char}
    : inRanges ranges c = true ↔ ∃ range ∈ ranges, range.1 ≤ c.toNat ∧ c.toNat ≤ range.2 := by
  simp only [inRanges, List.any_eq_true, Bool.and_eq_true, decide_eq_true_eq]

/-- Whether no code point lies in ranges of both lists. -/
def areApart (left right : List (Nat × Nat)) : Bool :=
  left.all fun one => right.all fun other => one.2 < other.1 || other.2 < one.1

/-- A character in the ranges of one list is in none of the other, if the two lists are apart. -/
theorem inRanges_eq_false_of_apart {left right : List (Nat × Nat)} (apart : areApart left right = true)
    {c : Char} (member : inRanges left c = true)
    : inRanges right c = false := by
  obtain ⟨one, listed, low, high⟩ := inRanges_iff.mp member
  refine Bool.eq_false_iff.mpr fun also => ?_
  obtain ⟨other, found, otherLow, otherHigh⟩ := inRanges_iff.mp also
  have parted := List.all_eq_true.mp (List.all_eq_true.mp apart one listed) other found
  simp only [Bool.or_eq_true, decide_eq_true_eq] at parted
  omega

-----------------------------------------------------------------------------------------
-- Characters that have no other lower-case form
-----------------------------------------------------------------------------------------

/-- The characters that lower-casing changes: ASCII capitals, the dotted capital I, and the case table. -/
def capitalRuns : List CaseRun :=
  ⟨0x41, 0x5A, 1, 32⟩ :: ⟨0x130, 0x130, 1, 0⟩ :: lowercaseRuns

/-- A run has a partner for the code points on its steps, at the distance that it shifts them by. -/
theorem partner?_eq_some_iff {run : CaseRun} {code partner : Nat}
    : run.partner? code = some partner
      ↔ (run.first ≤ code ∧ code ≤ run.last ∧ (code - run.first) % run.step = 0)
        ∧ (code + run.shift).toNat = partner := by
  simp only [CaseRun.partner?, Option.ite_none_right_eq_some, Option.some.injEq]

/-- A character to which no run of capitals has a partner stays as it is. -/
theorem lowerChar_of_no_partner {c : Char}
    (none : ∀ run ∈ capitalRuns, run.partner? c.toNat = none)
    : lowerChar c = [c] := by
  obtain ⟨noCapital, noDot, others⟩ :
      (⟨0x41, 0x5A, 1, 32⟩ : CaseRun).partner? c.toNat = .none
        ∧ (⟨0x130, 0x130, 1, 0⟩ : CaseRun).partner? c.toNat = .none
        ∧ ∀ run ∈ lowercaseRuns, run.partner? c.toNat = .none := by
    simpa [capitalRuns] using none
  have noPartner := List.findSome?_eq_none_iff.mpr others
  unfold lowerChar
  split
  · rw [asciiLower, if_neg]
    intro capital
    simp only [Bool.and_eq_true, decide_eq_true_eq] at capital
    rw [CaseRun.partner?, if_pos ⟨capital.1, capital.2, Nat.mod_one _⟩] at noCapital
    cases noCapital
  · rw [if_neg, noPartner]
    intro dotted
    rw [beq_iff_eq.mp dotted] at noDot
    cases noDot

/-- Of a given character, a search through the case table shows that it has no partner. -/
theorem lowerChar_of_none {c : Char}
    (none : (capitalRuns.all fun run => (run.partner? c.toNat).isNone) = true)
    : lowerChar c = [c] := by
  apply lowerChar_of_no_partner
  intro run listed
  exact Option.isNone_iff_eq_none.mp (List.all_eq_true.mp none run listed)

-----------------------------------------------------------------------------------------
-- Texts with blanks in them
-----------------------------------------------------------------------------------------

/-- No blank is cased: the ranges of both are apart, which is checked on the tables. -/
theorem isCased_of_whiteSpace {c : Char} (blank : isWhiteSpace c = true) : isCased c = false :=
  inRanges_eq_false_of_apart (by decide +kernel) blank

/-- No blank is ignored when case is looked at, by the same check. -/
theorem isCaseIgnorable_of_whiteSpace {c : Char} (blank : isWhiteSpace c = true)
    : isCaseIgnorable c = false :=
  inRanges_eq_false_of_apart (by decide +kernel) blank

/-- No run of capitals goes over a blank. -/
theorem lowerChar_of_whiteSpace {c : Char} (blank : isWhiteSpace c = true) : lowerChar c = [c] := by
  let spans := capitalRuns.map fun run => (run.first, run.last)
  have outside : inRanges spans c = false := inRanges_eq_false_of_apart (by decide +kernel) blank
  apply lowerChar_of_no_partner
  intro run listed
  refine if_neg fun ⟨low, high, _⟩ => ?_
  have inside : inRanges spans c = true :=
    inRanges_iff.mpr ⟨_, List.mem_map_of_mem listed, low, high⟩
  exact Bool.false_ne_true (outside.symm.trans inside)

/-- A blank starts nothing that a letter before it would look at. -/
theorem startsWithCased_append {c : Char} (blank : isWhiteSpace c = true) (text rest : List Char)
    : startsWithCased (text ++ c :: rest) = startsWithCased text := by
  unfold startsWithCased
  rw [List.dropWhile_append]
  cases text.dropWhile isCaseIgnorable with
  | nil =>
      rw [List.isEmpty_nil, if_pos rfl, List.dropWhile_cons, isCaseIgnorable_of_whiteSpace blank]
      exact isCased_of_whiteSpace blank
  | cons first later => rfl

/-- A blank stays as it is in lower-casing, and what follows it does not follow a cased letter. -/
theorem lowerAfter_cons_whiteSpace {c : Char} (blank : isWhiteSpace c = true) (afterCased : Bool)
    (rest : List Char)
    : lowerAfter afterCased (c :: rest) = c :: lowerAfter false rest := by
  have noSigma : ¬c = 'Σ' := by
    rintro rfl
    exact absurd blank (by decide)
  simp [lowerAfter, noSigma, lowerChar_of_whiteSpace blank, isCaseIgnorable_of_whiteSpace blank,
    isCased_of_whiteSpace blank]

/-- A text with a blank in it is lower-cased part by part, by induction on the part before it. -/
theorem lowerAfter_append {c : Char} (blank : isWhiteSpace c = true) (afterCased : Bool)
    (text rest : List Char)
    : lowerAfter afterCased (text ++ c :: rest)
      = lowerAfter afterCased text ++ c :: lowerAfter false rest := by
  induction text generalizing afterCased with
  | nil => exact lowerAfter_cons_whiteSpace blank afterCased rest
  | cons first text ih =>
      rw [List.cons_append, lowerAfter, lowerAfter, ih, startsWithCased_append blank]
      split
      · rw [List.cons_append]
      · rw [List.append_assoc]

/-- A blank parts a text into two that are lower-cased apart. -/
theorem lowercase_append {c : Char} (blank : isWhiteSpace c = true) (text rest : List Char)
    : lowercase (text ++ c :: rest) = lowercase text ++ c :: lowercase rest :=
  lowerAfter_append blank false text rest

-----------------------------------------------------------------------------------------
-- Lower case stays lower case
-----------------------------------------------------------------------------------------

/-- Characters that have no other lower-case form are left alone, whatever stands around them. -/
theorem lowerAfter_of_lower {text : List Char} (lower : ∀ c ∈ text, lowerChar c = [c])
    (afterCased : Bool)
    : lowerAfter afterCased text = text := by
  induction text generalizing afterCased with
  | nil => rfl
  | cons c rest ih =>
      obtain ⟨here, later⟩ := List.forall_mem_cons.mp lower
      have noSigma : ¬c = 'Σ' := by
        rintro rfl
        exact absurd here (by decide +kernel)
      simp [lowerAfter, noSigma, here, ih later]

/-- Whether no partner of a code point of a run lies in another run: the partners lie before or behind it,
or out of its step. Bounds are compared as natural numbers, which is faster over all pairs of runs.
-/
def isClearOf (run other : CaseRun) : Bool :=
  (run.last + run.shift).toNat.blt other.first || other.last.blt (run.first + run.shift).toNat
    || (0 ≤ run.first + run.shift && (run.first == run.last || run.step % other.step == 0)
      && (run.first + run.shift - other.first) % other.step != 0)

/-- Steps along a run lead from one partner to the next, which is as far out of step with the other run. -/
theorem partner?_of_isClearOf {run other : CaseRun} (clear : isClearOf run other = true)
    {code partner : Nat} (found : run.partner? code = some partner)
    : other.partner? partner = none := by
  obtain ⟨⟨low, high, inStep⟩, rfl⟩ := partner?_eq_some_iff.mp found
  refine if_neg fun ⟨otherLow, otherHigh, otherStep⟩ => ?_
  simp only [isClearOf, Bool.or_eq_true, Bool.and_eq_true, Nat.blt_eq, decide_eq_true_eq,
    beq_iff_eq, bne_iff_ne] at clear
  rcases clear with (before | behind) | ⟨⟨positive, steps⟩, outOfStep⟩
  · omega
  · omega
  · have walked : (other.step : Int) ∣ code - run.first := by
      rcases steps with single | multiple
      · have same : code = run.first := by omega
        simp [same]
      · have divides : other.step ∣ code - run.first :=
          Nat.dvd_trans (Nat.dvd_of_mod_eq_zero multiple) (Nat.dvd_of_mod_eq_zero inStep)
        rw [← Int.ofNat_sub low]
        exact Int.natCast_dvd_natCast.mpr divides
    have reached : (other.step : Int) ∣ code + run.shift - other.first := by
      have divides := Int.natCast_dvd_natCast.mpr (Nat.dvd_of_mod_eq_zero otherStep)
      rwa [Int.ofNat_sub otherLow, Int.toNat_of_nonneg (by omega)] at divides
    apply outOfStep
    apply Int.emod_eq_zero_of_dvd
    have difference := Int.dvd_sub reached walked
    rwa [show (code : Int) + run.shift - other.first - (code - run.first)
      = run.first + run.shift - other.first by omega] at difference

/-- No partner of a run of the case table lies among the capitals, which is checked for each pair of runs
and not for each character.
-/
theorem isClearOf_capitalRuns
    : ∀ run ∈ lowercaseRuns, ∀ capitals ∈ capitalRuns, isClearOf run capitals = true := by
  have all : (lowercaseRuns.all fun run => capitalRuns.all (isClearOf run)) = true := by
    decide +kernel
  intro run listed
  exact List.all_eq_true.mp (List.all_eq_true.mp all run listed)

/-- The partner of a code point is in lower case itself. A partner that is no character is replaced by
the null character, which is in lower case too.
-/
theorem lowerChar_partner {run : CaseRun} (listed : run ∈ lowercaseRuns) {code partner : Nat}
    (found : run.partner? code = some partner)
    : lowerChar (.ofNat partner) = [.ofNat partner] := by
  by_cases valid : partner.isValidChar
  · have same : (Char.ofNat partner).toNat = partner := by
      rw [Char.ofNat, dif_pos valid]
      rfl
    apply lowerChar_of_no_partner
    intro capitals member
    rw [same]
    exact partner?_of_isClearOf (isClearOf_capitalRuns run listed capitals member) found
  · have invalid : Char.ofNat partner = '\x00' := by
      rw [Char.ofNat, dif_neg valid]
      rfl
    rw [invalid]
    decide

/-- Every character of a lower-case form is its own lower-case form. -/
theorem lowerChar_of_mem_lowerChar {c d : Char} (member : d ∈ lowerChar c) : lowerChar d = [d] := by
  unfold lowerChar at member
  split at member
  next ascii =>
    have all : ∀ code < 0x80, lowerChar (asciiLower (.ofNat code)) = [asciiLower (.ofNat code)] := by
      decide +kernel
    have lower := all c.toNat ascii
    rw [Char.ofNat_toNat] at lower
    rw [List.mem_singleton.mp member, lower]
  next beyond =>
    split at member
    next =>
      rcases List.mem_pair.mp member with rfl | rfl
      · exact lowerChar_of_none (by decide +kernel)
      · exact lowerChar_of_none (by decide +kernel)
    next undotted =>
      split at member
      next partner found =>
        obtain ⟨run, listed, partnered⟩ := List.exists_of_findSome?_eq_some found
        rw [List.mem_singleton.mp member]
        exact lowerChar_partner listed partnered
      next none =>
        rw [List.mem_singleton.mp member, lowerChar, if_neg beyond, if_neg undotted, none]

/-- Each character of a lower-cased text is in lower case, by induction on the text: a sigma becomes one
of the two small ones, and any other character one that has no partner.
-/
theorem lowerChar_of_mem_lowerAfter {afterCased : Bool} {text : List Char} {d : Char}
    (member : d ∈ lowerAfter afterCased text)
    : lowerChar d = [d] := by
  induction text generalizing afterCased with
  | nil => cases member
  | cons c rest ih =>
      rw [lowerAfter] at member
      split at member
      · rcases List.mem_cons.mp member with sigma | later
        · rw [sigma]
          split
          · exact lowerChar_of_none (by decide +kernel)
          · exact lowerChar_of_none (by decide +kernel)
        · exact ih later
      · rcases List.mem_append.mp member with here | later
        · exact lowerChar_of_mem_lowerChar here
        · exact ih later

/-- Lower-casing a second time changes nothing, since each character is in lower case by then. -/
theorem lowercaseString_lowercaseString (text : String)
    : lowercaseString (lowercaseString text) = lowercaseString text := by
  unfold lowercaseString lowercase
  rw [String.toList_ofList, lowerAfter_of_lower fun _ => lowerChar_of_mem_lowerAfter]

end Docpress.Text
