/-!
Settings as they are read from a written value. A notation says what its values mean as records,
truth values, texts, numbers and names; a record of settings is read the same way from all of them.
-/

namespace Docpress

/-- How the values of a notation are read as settings. -/
class SettingSource (σ : Type) where
  /-- The fields of a record in the order of their names, absent where the value gives none. -/
  fields? : List String → σ → Option (List (Option σ))
  /-- A truth value. -/
  bool? : σ → Option Bool
  /-- A text. -/
  text? : σ → Option String
  /-- A natural number. -/
  nat? : σ → Option Nat
  /-- The name that picks one of several choices. -/
  choice? : σ → Option String
  /-- Whether the value says that nothing is set. -/
  isNothing : σ → Bool

namespace SettingSource

variable {σ : Type} [SettingSource σ]

/-- One of a list of named choices. -/
def choiceOf? (choices : List (String × α)) (source : σ) : Option α :=
  (choice? source).bind fun name => choices.lookup name

/-- A value that may be unset. -/
def option? (read : σ → Option α) (source : σ) : Option (Option α) :=
  if isNothing source then some none else (read source).map some

end SettingSource

/-- A setting that keeps its default if its field is not given. -/
def settingOr (default : α) (read : σ → Option α) : Option σ → Option α
  | none => some default
  | some source => read source

end Docpress
