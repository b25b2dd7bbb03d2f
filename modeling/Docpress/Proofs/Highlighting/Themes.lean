import Docpress.Highlight.PlainText

/-!
The themes of the standard highlighter. A name that is asked for is the name of a listed theme up to the
case of ASCII letters, but not every such name is found: six of the themes go by their exact names only.
-/

namespace Docpress

open Text

/-- Two names are equal ignoring ASCII case if their lower-case forms are the same. -/
theorem eqIgnoringAsciiCase_iff {one other : String}
    : eqIgnoringAsciiCase one other = true
      ↔ one.toList.map asciiLower = other.toList.map asciiLower :=
  beq_iff_eq

/-- A name is equal to itself whatever its case. -/
theorem eqIgnoringAsciiCase_self (name : String) : eqIgnoringAsciiCase name name = true :=
  eqIgnoringAsciiCase_iff.mpr rfl

/-- Names that are the same in any letter case are compared alike. -/
theorem eqIgnoringAsciiCase_congr {one other : String} (same : eqIgnoringAsciiCase one other = true)
    (name : String)
    : eqIgnoringAsciiCase name one = eqIgnoringAsciiCase name other := by
  rw [eqIgnoringAsciiCase, eqIgnoringAsciiCase, eqIgnoringAsciiCase_iff.mp same]

namespace StandardHighlighter

/-- The themes that go by their exact names and by no others. -/
def strictThemes : List String :=
  exactThemes.filter fun exact => !embeddedThemes.any (eqIgnoringAsciiCase · exact)

example : strictThemes
    = ["Solarized (dark)", "Solarized (light)", "base16-eighties.dark", "base16-mocha.dark",
      "base16-ocean.dark", "base16-ocean.light"] := by
  decide +kernel

/-- Exact names are different in any letter case. -/
theorem eq_of_exactThemes {one other : String} (listed : one ∈ exactThemes)
    (also : other ∈ exactThemes) (same : eqIgnoringAsciiCase one other = true)
    : one = other := by
  have apart : ∀ one ∈ exactThemes, ∀ other ∈ exactThemes,
      eqIgnoringAsciiCase one other = true → one = other := by
    decide +kernel
  exact apart one listed other also same

/-- A theme stands for a listed one exactly if the highlighter has it. -/
theorem isSome_findTheme? (theme : String) : (findTheme? theme).isSome = hasTheme theme := by
  unfold findTheme? hasTheme
  split
  next exact => simp only [exact, Option.isSome_some, Bool.true_or]
  next absent =>
    simp only [absent, Bool.false_or]
    exact List.isSome_find?

section

variable [SyntaxLibrary]

/-- Whether a name is that of a theme up to the case of ASCII letters. -/
def IsListed (theme : String) : Prop :=
  ∃ known ∈ standardHighlighter.themes, eqIgnoringAsciiCase known theme = true

/-- The themes are those of the library and the embedded ones, in an order that does not matter here. -/
theorem mem_themes {theme : String}
    : theme ∈ standardHighlighter.themes ↔ theme ∈ exactThemes ∨ theme ∈ embeddedThemes := by
  rw [standardHighlighter, themes, List.mem_mergeSort, List.mem_append]

/-- A theme is there if the library has a theme of this very name or an embedded one has it up to case.
-/
theorem hasTheme_iff {theme : String}
    : standardHighlighter.hasTheme theme = true
      ↔ theme ∈ exactThemes ∨ ∃ known ∈ embeddedThemes, eqIgnoringAsciiCase known theme = true := by
  simp only [standardHighlighter, hasTheme, Bool.or_eq_true, List.contains_iff_mem, List.any_eq_true]

/-- A theme that is there is listed, up to case. -/
theorem isListed_of_hasTheme {theme : String} (has : standardHighlighter.hasTheme theme = true)
    : IsListed theme := by
  rcases hasTheme_iff.mp has with exact | ⟨known, listed, same⟩
  · exact ⟨theme, mem_themes.mpr (Or.inl exact), eqIgnoringAsciiCase_self theme⟩
  · exact ⟨known, mem_themes.mpr (Or.inr listed), same⟩

/-- A theme that is found is a strict one only as it is written: a strict name is neither another exact
name nor an embedded one, whatever the letter case.
-/
theorem eq_of_hasTheme {theme strict : String} (has : standardHighlighter.hasTheme theme = true)
    (listed : strict ∈ strictThemes) (same : eqIgnoringAsciiCase strict theme = true)
    : strict = theme := by
  obtain ⟨exactName, none⟩ := List.mem_filter.mp listed
  rcases hasTheme_iff.mp has with exact | ⟨known, embedded, alike⟩
  · exact eq_of_exactThemes exactName exact same
  · have found : embeddedThemes.any (eqIgnoringAsciiCase · strict) = true := by
      refine List.any_eq_true.mpr ⟨known, embedded, ?_⟩
      rw [eqIgnoringAsciiCase_congr same, alike]
    simp [found] at none

/-- A theme that is listed up to case is there, unless it is one of the library's own that is written in
another case.
-/
theorem hasTheme_of_isListed {theme : String} (listed : IsListed theme)
    (written : ∀ strict ∈ strictThemes, eqIgnoringAsciiCase strict theme = true → strict = theme)
    : standardHighlighter.hasTheme theme = true := by
  obtain ⟨known, member, same⟩ := listed
  apply hasTheme_iff.mpr
  rcases mem_themes.mp member with exact | embedded
  · by_cases strict : known ∈ strictThemes
    · exact Or.inl (written known strict same ▸ exact)
    · have found : embeddedThemes.any (eqIgnoringAsciiCase · known) = true := by
        simpa [strictThemes, exact] using strict
      obtain ⟨other, embedded, alike⟩ := List.any_eq_true.mp found
      refine Or.inr ⟨other, embedded, ?_⟩
      rw [← eqIgnoringAsciiCase_congr same, alike]
  · exact Or.inr ⟨known, embedded, same⟩

/-- A failure of the library is never taken for an unknown theme. -/
theorem stylesheet_eq_error_iff (theme name : String)
    : standardHighlighter.stylesheet theme = .error (.themeNotFound name)
      ↔ standardHighlighter.hasTheme theme = false ∧ theme = name := by
  have has : standardHighlighter.hasTheme theme = (findTheme? theme).isSome :=
    (isSome_findTheme? theme).symm
  have does : standardHighlighter.stylesheet theme = stylesheet theme := rfl
  rw [has, does, stylesheet]
  cases findTheme? theme with
  | none => simp
  | some listed =>
      have other : (SyntaxLibrary.styles listed).mapError (HighlightError.stylesheet theme)
          ≠ .error (.themeNotFound name) := by
        cases SyntaxLibrary.styles listed <;> nofun
      simpa using other

/-- A style sheet is refused as that of an unknown theme exactly if the highlighter does not have the
theme. What it has is listed up to letter case, and what is listed so is had unless it is another
spelling of a strict name.
-/
theorem hasTheme_iff_isListed (theme : String)
    : (∀ name,
        standardHighlighter.stylesheet theme = .error (.themeNotFound name)
        ↔ standardHighlighter.hasTheme theme = false ∧ theme = name)
      ∧ (standardHighlighter.hasTheme theme = true → IsListed theme)
      ∧ ((standardHighlighter.hasTheme theme = true ↔ IsListed theme)
        ↔ ∀ strict ∈ strictThemes, eqIgnoringAsciiCase strict theme = true → strict = theme) := by
  refine ⟨stylesheet_eq_error_iff theme, isListed_of_hasTheme, ?_⟩
  constructor
  · intro agree strict listed same
    have known : strict ∈ standardHighlighter.themes :=
      mem_themes.mpr (Or.inl (List.mem_filter.mp listed).1)
    exact eq_of_hasTheme (agree.mpr ⟨strict, known, same⟩) listed same
  · intro written
    exact ⟨isListed_of_hasTheme, fun listed => hasTheme_of_isListed listed written⟩

end

/-- A theme that is listed but not found in other letters. -/
theorem respelled_theme_not_found
    : "base16-ocean.dark" ∈ standardHighlighter.themes
      ∧ eqIgnoringAsciiCase "base16-ocean.dark" "Base16-Ocean.Dark" = true
      ∧ standardHighlighter.hasTheme "Base16-Ocean.Dark" = false
      ∧ standardHighlighter.stylesheet "Base16-Ocean.Dark"
        = .error (.themeNotFound "Base16-Ocean.Dark") := by
  have lacks : standardHighlighter.hasTheme "Base16-Ocean.Dark" = false := by decide +kernel
  exact ⟨mem_themes.mpr (Or.inl (by simp [exactThemes])), by decide +kernel, lacks,
    (stylesheet_eq_error_iff _ _).mpr ⟨lacks, rfl⟩⟩

end StandardHighlighter

end Docpress
