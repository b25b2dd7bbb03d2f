import Docpress.CommandLine.Level
import Mathlib.Data.List.Nodup
import Mathlib.Data.List.TakeWhile

/-!
Options under their long names, and how a level reads them. While options are read, nothing waits and
the settings depend only on which options are given so far; so the order in which they stand does not
matter. Behind the mark before operands everything is an operand, whatever it looks like.
-/

namespace Docpress.CommandLine

/-- An option as it is written, under its long name and with its value if it takes one. -/
structure LongOption where
  name : String
  value : Option String := none
  deriving Repr, DecidableEq

/-- The argument that an option is written as. The value stands behind an equals sign. -/
def LongOption.argument (option : LongOption) : String :=
  match option.value with
  | none => "--" ++ option.name
  | some value => "--" ++ option.name ++ "=" ++ value

/-- Whether an option can be told from its value, and from the mark before operands. -/
def LongOption.IsNamed (option : LongOption) : Prop :=
  option.name ≠ "" ∧ '=' ∉ option.name.toList

/-- What an option makes of the settings, given with a value or without one. -/
def Switch.set? {σ : Type} (switch : Switch σ) (value : Option String) (settings : σ) : Option σ :=
  match switch.action, value with
  | .flag set, none => some (set settings)
  | .value assign, some value => (assign value settings).toOption
  | _, _ => none

variable {σ : Type}

/-- What an option makes of the settings, if the level has it and takes its value. -/
def Level.set? (level : Level σ) (option : LongOption) (settings : σ) : Option σ :=
  (level.switches.find? (·.long == option.name)).bind (·.set? option.value settings)

/-- How far a level is behind options with these names: nothing is waiting to be checked. -/
def Progress.behind (settings : σ) (names : List String) : Progress σ where
  settings := settings
  given := names

-----------------------------------------------------------------------------------------
-- Reading one option
-----------------------------------------------------------------------------------------

/-- No character of a name without equals signs is one. -/
theorem bne_equals_of_mem {name : List Char} (plain : '=' ∉ name)
    : ∀ c ∈ name, (c != '=') = true :=
  fun _ member => bne_iff_ne.mpr fun same => plain (same ▸ member)

/-- A name by itself has no value behind an equals sign. -/
theorem splitAtEquals_name {name : List Char} (plain : '=' ∉ name)
    : Level.splitAtEquals name = (String.ofList name, none) := by
  simp [Level.splitAtEquals, List.dropWhile_eq_nil_iff.mpr (bne_equals_of_mem plain),
    List.takeWhile_eq_self_iff.mpr (bne_equals_of_mem plain)]

/-- A name is split from its value at the first equals sign, whatever the value is. -/
theorem splitAtEquals_append {name : List Char} (plain : '=' ∉ name) (value : List Char)
    : Level.splitAtEquals (name ++ '=' :: value)
      = (String.ofList name, some (String.ofList value)) := by
  simp [Level.splitAtEquals, List.takeWhile_append_of_pos (bne_equals_of_mem plain),
    List.dropWhile_append_of_pos (bne_equals_of_mem plain)]

/-- An option is told apart again into its name and its value, whatever is in the value. -/
theorem LongOption.IsNamed.exists_text {option : LongOption} (named : option.IsNamed)
    : ∃ text,
        option.argument.toList = '-' :: '-' :: text
        ∧ text ≠ []
        ∧ Level.splitAtEquals text = (option.name, option.value) := by
  obtain ⟨name, value⟩ := option
  obtain ⟨more, plain⟩ := named
  cases value with
  | none =>
      refine ⟨name.toList, by simp [LongOption.argument], ?_, ?_⟩
      · simpa using more
      · rw [splitAtEquals_name plain, String.ofList_toList]
  | some value =>
      refine ⟨name.toList ++ '=' :: value.toList, by simp [LongOption.argument], by simp, ?_⟩
      rw [splitAtEquals_append plain, String.ofList_toList, String.ofList_toList]

/-- A result that is there as an option is the result. -/
theorem eq_ok_of_toOption {ε α : Type} {result : Except ε α} {value : α}
    (good : result.toOption = some value)
    : result = .ok value := by
  cases result with
  | error => cases good
  | ok => exact congrArg Except.ok (Option.some.inj good)

section

variable {switch : Switch σ} {value : Option String} {settings settings' : σ} {names : List String}

/-- Behind options there is nothing to settle. -/
theorem Progress.settle_behind : (behind settings names).settle = .ok (behind settings names) :=
  rfl

/-- An option that has not been given can be noted. -/
theorem Progress.note_behind {name : String} (fresh : name ∉ names)
    : (behind settings names).note name = .ok (behind settings (name :: names)) := by
  simp [note, behind, fresh]

/-- An option that is not given yet is followed with what it makes of the settings. -/
theorem Progress.follow_behind (fresh : switch.long ∉ names)
    (taken : switch.set? value settings = some settings')
    : (behind settings names).follow switch value
      = .ok (behind settings' (switch.long :: names)) := by
  cases action : switch.action <;> cases value <;> simp only [Switch.set?, action] at taken
  case flag.none set =>
      cases taken
      simp only [follow, action, settle_behind, note_behind fresh, bind, Except.bind]
      rfl
  case value.some assign value =>
      have assigned : assign value (behind settings (switch.long :: names)).settings = .ok settings' :=
        eq_ok_of_toOption taken
      simp only [follow, action, settle_behind, Progress.assign, note_behind fresh, assigned, bind,
        Except.bind]
      rfl
  all_goals cases taken

end

variable {level : Level σ} {option : LongOption} {settings settings' : σ} {names : List String}

/-- An option leads on to what it makes of the settings. -/
theorem Level.read_option (named : option.IsNamed) (fresh : option.name ∉ names)
    (noCommand : option.argument ∉ level.commands)
    (taken : level.set? option settings = some settings') (rest : List String)
    : level.read false (.behind settings names) (option.argument :: rest)
      = level.read false (.behind settings' (option.name :: names)) rest := by
  obtain ⟨text, written, more, split⟩ := named.exists_text
  obtain ⟨switch, found, does⟩ := Option.bind_eq_some_iff.mp taken
  have long : switch.long = option.name := by
    simpa using List.find?_some found
  have noMark : option.argument ≠ "--" := by
    intro same
    rw [same] at written
    exact more (by simpa using written)
  have step : level.readArgument (.behind settings names) option.argument
      = .ok (.behind settings' (option.name :: names)) := by
    simp only [readArgument, written, readLong, split, found]
    rw [Progress.follow_behind (long ▸ fresh) does, long]
  rw [read]
  simp only [noCommand, noMark, step, List.contains_eq_mem, decide_false, Bool.and_false, beq_iff_eq,
    if_false, Bool.false_eq_true, bind, Except.bind]

-----------------------------------------------------------------------------------------
-- Reading options in any order, and what stands behind them
-----------------------------------------------------------------------------------------

/-- A level takes an option whichever options are given before it: `goal` tells the settings by the names
of the options that are given so far.
-/
structure Level.Takes (level : Level σ) (goal : List String → σ) (option : LongOption) : Prop where
  named : option.IsNamed
  noCommand : option.argument ∉ level.commands
  set
    : ∀ names, option.name ∉ names
      → level.set? option (goal names) = some (goal (option.name :: names))

variable {goal : List String → σ} {options : List LongOption}

/-- Options lead on to the settings for their names, by induction on the options. -/
theorem Level.read_options (takes : ∀ option ∈ options, level.Takes goal option)
    (distinct : (options.map LongOption.name ++ names).Nodup) (rest : List String)
    : level.read false (.behind (goal names) names) (options.map LongOption.argument ++ rest)
      = level.read false
          (.behind (goal ((options.map LongOption.name).reverse ++ names))
            ((options.map LongOption.name).reverse ++ names))
          rest := by
  induction options generalizing names with
  | nil => rfl
  | cons option later ih =>
      obtain ⟨here, takes⟩ := List.forall_mem_cons.mp takes
      have moved : (later.map LongOption.name ++ option.name :: names).Nodup :=
        List.perm_middle.nodup_iff.mpr distinct
      have fresh : option.name ∉ names := fun given =>
        (List.nodup_cons.mp distinct).1 (List.mem_append_right _ given)
      rw [List.map_cons, List.cons_append,
        read_option here.named fresh here.noCommand (here.set names fresh), ih takes moved]
      simp only [List.map_cons, List.reverse_cons, List.append_assoc, List.singleton_append]

/-- Operands are checked when they are complete. -/
theorem Progress.settle_operands (assign : Assign σ) (operands : List String)
    : ({ behind settings names with pending := .operands assign operands } : Progress σ).settle
      = (operands.foldlM (fun settings operand => assign operand settings) settings).map
          (behind · names) := by
  simp only [settle, behind, bind, Except.bind]
  cases operands.foldlM (fun settings operand => assign operand settings) settings <;> rfl

/-- Behind the mark before operands every argument is one more operand. -/
theorem Level.read_operands {assign : Assign σ} (operand : level.operand = some assign)
    (progress : Progress σ) (operands more : List String)
    : level.read true { progress with pending := .operands assign operands } more
      = .ok ({ progress with pending := .operands assign (operands ++ more) }, none) := by
  induction more generalizing operands with
  | nil => rw [read, List.append_nil]
  | cons argument rest ih =>
      have step
          : level.readOperand true { progress with pending := .operands assign operands } argument
            = .ok { progress with pending := .operands assign (operands ++ [argument]) } := by
        simp only [readOperand, operand, Progress.addOperand]
      simp only [read, step, bind, Except.bind]
      rw [ih, List.append_assoc, List.singleton_append]

section

variable (takes : ∀ option ∈ options, level.Takes goal option)
  (distinct : (options.map LongOption.name).Nodup)

include takes distinct

/-- All options of a level are read, from where nothing has been given. -/
theorem Level.read_from_start (rest : List String)
    : level.read false { settings := goal [] } (options.map LongOption.argument ++ rest)
      = level.read false
          (.behind (goal (options.map LongOption.name).reverse)
            (options.map LongOption.name).reverse)
          rest := by
  rw [← List.append_nil (options.map LongOption.name)] at distinct
  have all := read_options takes distinct rest
  rwa [List.append_nil] at all

/-- A level without operands reads options alone. -/
theorem Level.readAll_options
    : level.readAll (goal []) (options.map LongOption.argument)
      = .ok (goal (options.map LongOption.name).reverse) := by
  have all := read_from_start takes distinct []
  rw [List.append_nil, read] at all
  simp only [readAll, all, Progress.settle_behind, bind, Except.bind]
  rfl

/-- The operands behind the mark are taken one after another, with the settings that the options make. -/
theorem Level.readAll_operands {assign : Assign σ} (operand : level.operand = some assign)
    (noMark : "--" ∉ level.commands) (first : String) (more : List String)
    : level.readAll (goal []) (options.map LongOption.argument ++ "--" :: first :: more)
      = (first :: more).foldlM (fun settings operand => assign operand settings)
          (goal (options.map LongOption.name).reverse) := by
  have start
      : level.readOperand true
            (.behind (goal (options.map LongOption.name).reverse)
              (options.map LongOption.name).reverse) first
        = .ok
            { Progress.behind (goal (options.map LongOption.name).reverse)
                (options.map LongOption.name).reverse with
              pending := .operands assign [first] } := by
    simp only [readOperand, operand, Progress.addOperand]
    rfl
  have all := read_from_start takes distinct ("--" :: first :: more)
  rw [read] at all
  simp only [noMark, List.contains_eq_mem, decide_false, Bool.and_false, Bool.false_eq_true,
    if_false, beq_self_eq_true, if_true, read, start, bind, Except.bind, read_operands operand] at all
  simp only [readAll, all, List.singleton_append, bind, Except.bind, Progress.settle_operands]
  cases (first :: more).foldlM (fun settings operand => assign operand settings)
      (goal (options.map LongOption.name).reverse) <;> rfl

/-- Options in front of the name of a command leave what is behind it to the command. -/
theorem Level.read_command {command : String} (known : command ∈ level.commands)
    (rest : List String)
    : level.read false { settings := goal [] } (options.map LongOption.argument ++ command :: rest)
      = .ok
          (.behind (goal (options.map LongOption.name).reverse)
            (options.map LongOption.name).reverse,
          some (command, rest)) := by
  rw [read_from_start takes distinct, read]
  simp [Progress.awaitsValue, Progress.behind, known]

end

end Docpress.CommandLine
