import Docpress.Proofs.CommandLine.Writing
import Docpress.Proofs.Text.Decimal

/-!
What is known of the arguments of a command line from the options that are given so far: the settings are
those of the command line in these options and the defaults in all others.
-/

namespace Docpress

open CommandLine

namespace CommandLine

-----------------------------------------------------------------------------------------
-- Values
-----------------------------------------------------------------------------------------

/-- A path that is not empty is taken for what it is. -/
theorem path_text {path : Path} (something : path.text ≠ "")
    : CommandLine.path path.text = .ok path := by
  simp [CommandLine.path, something]

/-- An output format is chosen by its name. -/
theorem choice_outputFormat (format : OutputFormat)
    : choice OutputFormat.names format.name = .ok format := by
  cases format <;> rfl

/-- A heading policy is chosen by its name. -/
theorem choice_headingIds (policy : HeadingIds)
    : choice HeadingIds.names policy.name = .ok policy := by
  cases policy <;> rfl

/-- A file format is chosen by its name. -/
theorem choice_configFormat (format : ConfigFormat)
    : choice ConfigFormat.names format.name = .ok format := by
  cases format <;> rfl

/-- A number is written in digits, without a sign. -/
theorem number_toString {value : Nat} (small : value ≤ maxNumber)
    : number (toString value) = .ok value := by
  have digits : (toString value).toList = Nat.toDigits 10 value := by
    rw [Nat.toString_eq_ofList_toDigits, String.toList_ofList]
  have all : ∀ c ∈ Nat.toDigits 10 value, c.isDigit = true := fun c member =>
    Nat.isDigit_of_mem_toDigits (by decide) (by decide) member
  unfold number
  rw [digits]
  split
  next rest sign => exact absurd (all '+' (sign ▸ List.mem_cons_self)) (by decide)
  next =>
    simp [Nat.toDigits_ne_nil, List.all_eq_true.mpr all, Text.natOfDigits_toDigits, small]

-----------------------------------------------------------------------------------------
-- The settings of the options that are given so far
-----------------------------------------------------------------------------------------

/-- The value of an option that is given, and its default otherwise. -/
def valueIn {α : Type} (names : List String) (name : String) (value default : α) : α :=
  if name ∈ names then value else default

section

variable {α : Type} {names : List String} {name : String}

/-- With one more name a value is known if it was or if the name is its own. -/
@[simp]
theorem valueIn_cons (other : String) (value default : α)
    : valueIn (other :: names) name value default
      = if name = other then value else valueIn names name value default := by
  by_cases same : name = other <;> simp [valueIn, same]

/-- A value is known if its name is there, unless it is the default anyway. -/
theorem valueIn_eq {value default : α} (given : value ≠ default → name ∈ names)
    : valueIn names name value default = value := by
  by_cases same : value = default
  · subst same
    exact ite_self value
  · exact if_pos (given same)

/-- A flag is known if what is written of it is among the names. -/
theorem valueIn_flag {set : Bool} (given : ∀ option ∈ writtenFlag name set, option.name ∈ names)
    : valueIn names name set false = set := by
  refine valueIn_eq fun notFalse => ?_
  exact forall_mem_writtenFlag.mp given (Bool.of_not_eq_false notFalse)

/-- An optional value is known if what is written of it is among the names. -/
theorem valueIn_value {text : α → String} {value : Option α}
    (given : ∀ option ∈ writtenValue name text value, option.name ∈ names)
    : valueIn names name value none = value := by
  refine valueIn_eq fun something => ?_
  obtain ⟨found, rfl⟩ := Option.ne_none_iff_exists'.mp something
  exact forall_mem_writtenValue.mp given _ rfl

end

-----------------------------------------------------------------------------------------
-- Options that a level takes
-----------------------------------------------------------------------------------------

/-- What is known of the arguments for all commands from the options that are given. -/
def Globals.knownFrom (globals : Globals) (names : List String) : Globals where
  verbose := valueIn names "verbose" globals.verbose false
  configFile := valueIn names "config-file" globals.configFile none

/-- Whether a name can be that of an option of one command. -/
def IsOwnName (name : String) : Prop :=
  (name ≠ "" ∧ '=' ∉ name.toList) ∧ name ≠ "verbose" ∧ name ≠ "config-file"

section

variable {α β : Type} {level : Level (WithGlobals α)} {short : Option Char} {name : String}
  {globals : Globals} {known : List String → α}

/-- The name of a command's own option says nothing of the global ones. -/
theorem Globals.knownFrom_own (isName : IsOwnName name) (names : List String)
    : globals.knownFrom (name :: names) = globals.knownFrom names := by
  simp [knownFrom, isName.2.1.symm, isName.2.2.symm]

/-- A level takes an option of its command if the value is read back and set. -/
theorem takes_value {read : String → Except Usage β} {set : α → β → α} {value : β} {text : String}
    (isName : IsOwnName name) (noCommands : level.commands = [])
    (found
      : level.switches.find? (·.long == name)
        = some { short := short, long := name, action := own read set })
    (reads : read text = .ok value)
    (sets : ∀ names, set (known names) value = known (name :: names))
    : level.Takes (fun names => ⟨globals.knownFrom names, known names⟩)
        { name := name, value := some text } where
  named := isName.1
  noCommand := noCommands ▸ List.not_mem_nil
  set names _ := by
    simp only [Level.set?, found, Option.bind_some, Switch.set?, own, reads, ← sets,
      Globals.knownFrom_own isName]
    rfl

/-- A switch of a command sets its flag and leaves the rest of what is known. -/
theorem takes_flag {set : α → α} (isName : IsOwnName name) (noCommands : level.commands = [])
    (found
      : level.switches.find? (·.long == name)
        = some { short := short, long := name, action := ownFlag set })
    (sets : ∀ names, set (known names) = known (name :: names))
    : level.Takes (fun names => ⟨globals.knownFrom names, known names⟩) { name := name } where
  named := isName.1
  noCommand := noCommands ▸ List.not_mem_nil
  set names _ := by
    simp only [Level.set?, found, Option.bind_some, Switch.set?, ownFlag, ← sets,
      Globals.knownFrom_own isName]

/-- Every level takes the options that all commands take. -/
theorem Globals.takes_options {others : List (Switch (WithGlobals α))}
    (switches : level.switches = globalSwitches ++ others)
    (noCommand : ∀ option : LongOption, option.argument ∉ level.commands)
    (paths : ∀ path ∈ globals.configFile, path.text ≠ "")
    (apart
      : ∀ names,
          known ("verbose" :: names) = known names ∧ known ("config-file" :: names) = known names)
    : ∀ option ∈ globals.options,
        level.Takes (fun names => ⟨globals.knownFrom names, known names⟩) option := by
  simp only [options, List.forall_mem_append, forall_mem_writtenFlag, forall_mem_writtenValue]
  constructor
  · intro set
    refine ⟨by simp [LongOption.IsNamed], noCommand _, fun names _ => ?_⟩
    simp [Level.set?, switches, globalSwitches, Switch.set?, knownFrom, set, apart]
  · intro path found
    refine ⟨by simp [LongOption.IsNamed], noCommand _, fun names _ => ?_⟩
    simp [Level.set?, switches, globalSwitches, Switch.set?, knownFrom, found, apart,
      path_text (paths path found), Functor.map, Except.map, Except.toOption]

end

end CommandLine

namespace RenderArguments

variable {arguments : RenderArguments} {globals : Globals}

/-- What is known of the arguments from the options that are given. -/
def knownFrom (arguments : RenderArguments) (names : List String) : RenderArguments where
  outputDir := valueIn names "output-dir" arguments.outputDir none
  format := valueIn names "format" arguments.format none
  theme := valueIn names "theme" arguments.theme none
  noHighlight := valueIn names "no-highlight" arguments.noHighlight false
  strictTables := valueIn names "strict-tables" arguments.strictTables false
  headingIds := valueIn names "heading-ids" arguments.headingIds none
  jobs := valueIn names "jobs" arguments.jobs none

/-- Rendering takes each of its options, and knows the value of each from its name on. -/
theorem takes_options (outputDir : ∀ path ∈ arguments.outputDir, path.text ≠ "")
    (jobs : ∀ jobs ∈ arguments.jobs, jobs ≤ maxNumber)
    : ∀ option ∈ arguments.options,
        renderLevel.Takes (fun names => ⟨globals.knownFrom names, arguments.knownFrom names⟩)
          option := by
  simp only [options, List.forall_mem_append, forall_mem_writtenFlag, forall_mem_writtenValue]
  refine ⟨⟨⟨⟨⟨⟨?_, ?_⟩, ?_⟩, ?_⟩, ?_⟩, ?_⟩, ?_⟩
  · intro path given
    exact takes_value (by simp [IsOwnName]) rfl rfl (path_text (outputDir path given))
      fun names => by simp [knownFrom, given]
  · intro format given
    exact takes_value (by simp [IsOwnName]) rfl rfl (choice_outputFormat format)
      fun names => by simp [knownFrom, given]
  · intro theme given
    exact takes_value (by simp [IsOwnName]) rfl rfl rfl
      fun names => by simp [knownFrom, given]
  · intro given
    exact takes_flag (by simp [IsOwnName]) rfl rfl
      fun names => by simp [knownFrom, given]
  · intro given
    exact takes_flag (by simp [IsOwnName]) rfl rfl
      fun names => by simp [knownFrom, given]
  · intro policy given
    exact takes_value (by simp [IsOwnName]) rfl rfl (choice_headingIds policy)
      fun names => by simp [knownFrom, given]
  · intro count given
    exact takes_value (by simp [IsOwnName]) rfl rfl (number_toString (jobs count given))
      fun names => by simp [knownFrom, given]

/-- Once all options of rendering have been read, everything but the inputs is known. -/
theorem knownFrom_eq {names : List String}
    (given : ∀ option ∈ arguments.options, option.name ∈ names)
    : arguments.knownFrom names = { arguments with inputs := [] } := by
  simp only [options, List.forall_mem_append] at given
  obtain ⟨⟨⟨⟨⟨⟨outputDir, format⟩, theme⟩, noHighlight⟩, strictTables⟩, headingIds⟩, jobs⟩ := given
  simp only [knownFrom, valueIn_value outputDir, valueIn_value format, valueIn_value theme,
    valueIn_flag noHighlight, valueIn_flag strictTables, valueIn_value headingIds, valueIn_value jobs]

end RenderArguments

namespace StylesheetArguments

variable {arguments : StylesheetArguments} {globals : Globals}

/-- What is known of the arguments from the options that are given. -/
def knownFrom (arguments : StylesheetArguments) (names : List String) : StylesheetArguments where
  theme := valueIn names "theme" arguments.theme none
  output := valueIn names "output" arguments.output none

/-- Writing a style sheet takes each of its options, and knows the value of each from its name on. -/
theorem takes_options (output : ∀ path ∈ arguments.output, path.text ≠ "")
    : ∀ option ∈ arguments.options,
        stylesheetLevel.Takes (fun names => ⟨globals.knownFrom names, arguments.knownFrom names⟩)
          option := by
  simp only [options, List.forall_mem_append, forall_mem_writtenValue]
  constructor
  · intro theme given
    exact takes_value (by simp [IsOwnName]) rfl rfl rfl
      fun names => by simp [knownFrom, given]
  · intro path given
    exact takes_value (by simp [IsOwnName]) rfl rfl (path_text (output path given))
      fun names => by simp [knownFrom, given]

/-- Once all options of writing a style sheet have been read, everything is known. -/
theorem knownFrom_eq {names : List String}
    (given : ∀ option ∈ arguments.options, option.name ∈ names)
    : arguments.knownFrom names = arguments := by
  obtain ⟨theme, output⟩ := List.forall_mem_append.mp given
  simp only [knownFrom, valueIn_value theme, valueIn_value output]

end StylesheetArguments

namespace InitArguments

variable {arguments : InitArguments} {globals : Globals}

/-- What is known of the arguments from the options that are given. -/
def knownFrom (arguments : InitArguments) (names : List String) : InitArguments where
  output := valueIn names "output" arguments.output ({} : InitArguments).output
  format := valueIn names "format" arguments.format ({} : InitArguments).format
  force := valueIn names "force" arguments.force ({} : InitArguments).force

/-- Writing a configuration takes each of its options, and knows the value of each from its name on. -/
theorem takes_options (output : arguments.output.text ≠ "")
    : ∀ option ∈ arguments.options,
        initLevel.Takes (fun names => ⟨globals.knownFrom names, arguments.knownFrom names⟩)
          option := by
  simp only [options, List.forall_mem_append, forall_mem_writtenFlag, forall_mem_writtenValue]
  refine ⟨⟨?_, ?_⟩, ?_⟩
  · rintro path ⟨⟩
    exact takes_value (by simp [IsOwnName]) rfl rfl (path_text output)
      fun names => by simp [knownFrom]
  · rintro format ⟨⟩
    exact takes_value (by simp [IsOwnName]) rfl rfl (choice_configFormat arguments.format)
      fun names => by simp [knownFrom]
  · intro given
    exact takes_flag (by simp [IsOwnName]) rfl rfl
      fun names => by simp [knownFrom, given]

/-- An option may be left out if it says what the default is. -/
theorem knownFrom_eq {names : List String}
    (given : ∀ option ∈ arguments.options,
      option.name ∈ names ∨ option ∈ ({} : InitArguments).options)
    : arguments.knownFrom names = arguments := by
  obtain ⟨parts, force⟩ := List.forall_mem_append.mp given
  obtain ⟨output, format⟩ := List.forall_mem_append.mp parts
  have output : valueIn names "output" arguments.output ({} : InitArguments).output
      = arguments.output := by
    refine valueIn_eq fun other => ?_
    refine (forall_mem_writtenValue.mp output _ rfl).resolve_right fun spare => other ?_
    have same : arguments.output.text = "folio.toml" := by
      simpa [options, writtenValue, writtenFlag] using spare
    exact congrArg Path.mk same
  have format : valueIn names "format" arguments.format ({} : InitArguments).format
      = arguments.format := by
    refine valueIn_eq fun other => ?_
    refine (forall_mem_writtenValue.mp format _ rfl).resolve_right fun spare => other ?_
    have same : arguments.format.name = ConfigFormat.toml.name := by
      simpa [options, writtenValue, writtenFlag] using spare
    have reads := choice_configFormat arguments.format
    rw [same, choice_configFormat .toml] at reads
    exact (Except.ok.inj reads).symm
  have force : valueIn names "force" arguments.force ({} : InitArguments).force
      = arguments.force := by
    refine valueIn_eq fun set => ?_
    refine (forall_mem_writtenFlag.mp force (Bool.of_not_eq_false set)).resolve_right fun spare => ?_
    simp [options, writtenValue, writtenFlag] at spare
  simp only [knownFrom, output, format, force]

end InitArguments

namespace CommandLine

/-- Global options that are split between both levels are joined to all of them. -/
theorem Globals.join_known {globals : Globals} {outer inner : List String}
    (given : ∀ option ∈ globals.options, option.name ∈ outer ∨ option.name ∈ inner)
    : ((globals.knownFrom outer).verbose || (globals.knownFrom inner).verbose) = globals.verbose
      ∧ ((globals.knownFrom inner).configFile <|> (globals.knownFrom outer).configFile)
        = globals.configFile := by
  obtain ⟨verbose, configFile⟩ := List.forall_mem_append.mp given
  rw [forall_mem_writtenFlag] at verbose
  rw [forall_mem_writtenValue] at configFile
  constructor
  · cases set : globals.verbose with
    | false => simp [knownFrom, valueIn, set]
    | true => simpa [knownFrom, valueIn, set] using verbose set
  · cases found : globals.configFile with
    | none => simp [knownFrom, valueIn, found]
    | some path =>
        by_cases inside : "config-file" ∈ inner
        · simp [knownFrom, valueIn, found, inside]
        · have outside := (configFile path found).resolve_right inside
          simp [knownFrom, valueIn, found, inside, outside]

end CommandLine

end Docpress
