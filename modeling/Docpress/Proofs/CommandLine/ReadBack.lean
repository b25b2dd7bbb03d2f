import Docpress.Proofs.CommandLine.KnownArguments

/-!
Command lines are read back from the long options that they are written in. Each level takes the options
that are written on it whichever are given before, so neither their order matters nor on which level an
option for all commands is given.
-/

namespace Docpress.CommandLine

/-- Whether everything in a command line can be given as an argument: paths are not empty, something is
rendered, and numbers have 64 bits.
-/
def IsWritable (line : CommandLine) : Prop :=
  (∀ path ∈ line.configFile, path.text ≠ "")
    ∧ match line.command with
      | .render arguments =>
        arguments.inputs ≠ []
          ∧ (∀ input ∈ arguments.inputs, input.text ≠ "")
          ∧ (∀ path ∈ arguments.outputDir, path.text ≠ "")
          ∧ ∀ jobs ∈ arguments.jobs, jobs ≤ maxNumber
      | .stylesheet arguments => ∀ path ∈ arguments.output, path.text ≠ ""
      | .init arguments => arguments.output.text ≠ ""

/-- No written option is taken for the name of a command, since it starts with a hyphen. -/
theorem argument_notMem_commandNames (option : LongOption) : option.argument ∉ commandNames := by
  obtain ⟨name, value⟩ := option
  intro listed
  have start : ∃ text, (LongOption.argument ⟨name, value⟩).toList = '-' :: text := by
    cases value <;> simp [LongOption.argument]
  obtain ⟨text, start⟩ := start
  simp only [commandNames, List.mem_cons, List.not_mem_nil, or_false] at listed
  rcases listed with same | same | same | same <;> simp [same] at start

/-- The inputs are taken one after another, by induction on them. -/
theorem takes_inputs {inputs : List Path} {assign : Assign (WithGlobals RenderArguments)}
    (operand : renderLevel.operand = some assign) (nonempty : ∀ input ∈ inputs, input.text ≠ "")
    (globals : Globals) (arguments : RenderArguments)
    : (inputs.map Path.text).foldlM (fun settings operand => assign operand settings)
        ⟨globals, arguments⟩
      = .ok ⟨globals, { arguments with inputs := arguments.inputs ++ inputs }⟩ := by
  induction inputs generalizing arguments with
  | nil => simp [pure, Except.pure]
  | cons input rest ih =>
      obtain ⟨here, later⟩ := List.forall_mem_cons.mp nonempty
      have step : assign input.text ⟨globals, arguments⟩
          = .ok ⟨globals, { arguments with inputs := arguments.inputs ++ [input] }⟩ := by
        cases operand
        simp only [path_text here, bind, Except.bind, pure, Except.pure]
      rw [List.map_cons, List.foldlM_cons, step]
      simp only [bind, Except.bind, ih later, List.append_assoc, List.singleton_append]

-----------------------------------------------------------------------------------------
-- Whole command lines
-----------------------------------------------------------------------------------------

variable {line : CommandLine} (writing : line.Writing)

/-- The names of the options in front of the command, in the order in which they are noted. -/
def Writing.namesBefore : List String := (writing.before.map LongOption.name).reverse

/-- The names of the options behind the command, in the order in which they are noted. -/
def Writing.namesBehind : List String := (writing.behind.map LongOption.name).reverse

/-- Every global option is written on one of the two levels. -/
theorem Writing.globals_given
    : ∀ option ∈ line.globals.options,
        option.name ∈ writing.namesBefore ∨ option.name ∈ writing.namesBehind := by
  intro option listed
  rcases writing.globals_written listed with before | behind
  · exact .inl (List.mem_reverse.mpr (List.mem_map_of_mem before))
  · exact .inr (List.mem_reverse.mpr (List.mem_map_of_mem behind))

/-- Every option of a command is written behind its name, or is spare. -/
theorem Writing.own_given
    : ∀ option ∈ line.command.options,
        option.name ∈ writing.namesBehind ∨ option ∈ line.command.spareOptions := by
  intro option listed
  exact (writing.own_written listed).imp_left fun behind =>
    List.mem_reverse.mpr (List.mem_map_of_mem behind)

/-- A level takes everything behind the command if it takes the command's own options. -/
theorem Writing.takes_behind {α : Type} {level : Level (WithGlobals α)}
    {known : List String → α} {others : List (Switch (WithGlobals α))}
    (writable : line.IsWritable)
    (switches : level.switches = globalSwitches ++ others) (noCommands : level.commands = [])
    (apart
      : ∀ names,
          known ("verbose" :: names) = known names ∧ known ("config-file" :: names) = known names)
    (own
      : ∀ option ∈ line.command.options,
          level.Takes (fun names => ⟨line.globals.knownFrom names, known names⟩) option)
    : ∀ option ∈ writing.behind,
        level.Takes (fun names => ⟨line.globals.knownFrom names, known names⟩) option := by
  intro option listed
  rcases writing.mem_behind listed with common | listed
  · exact Globals.takes_options switches (fun _ => noCommands ▸ List.not_mem_nil) writable.1
      apart option common
  · exact own option listed

/-- What stands behind the name of a command is read back, whatever stands in front of it. -/
theorem Writing.read_behind (writable : line.IsWritable)
    : readCommand line.command.name
        (writing.behind.map LongOption.argument ++ line.command.operands)
      = .ok (line.globals.knownFrom writing.namesBehind, line.command) := by
  -- In all cases the reading starts from what is known without options, which is the defaults.
  obtain ⟨verbose, configFile, command⟩ := line
  cases command with
  | render arguments =>
      obtain ⟨someInput, nonempty, outputDir, jobs⟩ := writable.2
      have takes := writing.takes_behind writable rfl rfl
        (fun names => by simp [RenderArguments.knownFrom])
        (RenderArguments.takes_options outputDir jobs)
      have known : arguments.knownFrom writing.namesBehind = { arguments with inputs := [] } :=
        RenderArguments.knownFrom_eq fun option listed =>
          (writing.own_given option listed).resolve_right List.not_mem_nil
      obtain ⟨first, more, inputs⟩ := List.exists_cons_of_ne_nil someInput
      have all : renderLevel.readAll { own := {} }
            (writing.behind.map LongOption.argument ++ "--" :: arguments.inputs.map Path.text)
          = .ok ⟨Globals.knownFrom ⟨verbose, configFile⟩ writing.namesBehind, arguments⟩ := by
        have read := Level.readAll_operands takes writing.nodup_names.2 rfl List.not_mem_nil
          first.text (more.map Path.text)
        rw [← List.map_cons, ← inputs, takes_inputs rfl nonempty] at read
        refine read.trans ?_
        rw [← namesBehind, known]
        rfl
      have filled : arguments.inputs.isEmpty = false := by simpa using someInput
      simp only [Command.name, Command.operands, readCommand, all, filled, bind, Except.bind]
      rfl
  | stylesheet arguments =>
      have takes := writing.takes_behind writable rfl rfl
        (fun names => by simp [StylesheetArguments.knownFrom])
        (StylesheetArguments.takes_options writable.2)
      have known : arguments.knownFrom writing.namesBehind = arguments :=
        StylesheetArguments.knownFrom_eq fun option listed =>
          (writing.own_given option listed).resolve_right List.not_mem_nil
      have all : stylesheetLevel.readAll { own := {} } (writing.behind.map LongOption.argument)
          = .ok ⟨Globals.knownFrom _ writing.namesBehind, arguments.knownFrom writing.namesBehind⟩ :=
        Level.readAll_options takes writing.nodup_names.2
      rw [known] at all
      simp only [Command.name, Command.operands, List.append_nil, readCommand, all, bind,
        Except.bind]
      rfl
  | init arguments =>
      have takes := writing.takes_behind writable rfl rfl
        (fun names => by simp [InitArguments.knownFrom])
        (InitArguments.takes_options writable.2)
      have known : arguments.knownFrom writing.namesBehind = arguments :=
        InitArguments.knownFrom_eq writing.own_given
      have all : initLevel.readAll { own := {} } (writing.behind.map LongOption.argument)
          = .ok ⟨Globals.knownFrom _ writing.namesBehind, arguments.knownFrom writing.namesBehind⟩ :=
        Level.readAll_options takes writing.nodup_names.2
      rw [known] at all
      simp only [Command.name, Command.operands, List.append_nil, readCommand, all, bind,
        Except.bind]
      rfl

/-- In front of the command the global options written there are read, and what is behind is left to the
command.
-/
theorem Writing.read_before (writable : line.IsWritable)
    : topLevel.read false { settings := { own := () } } writing.arguments
      = .ok
          (.behind ⟨line.globals.knownFrom writing.namesBefore, ()⟩ writing.namesBefore,
          some (line.command.name,
            writing.behind.map LongOption.argument ++ line.command.operands)) := by
  have takes : ∀ option ∈ writing.before,
      topLevel.Takes (fun names => ⟨line.globals.knownFrom names, ()⟩) option :=
    fun option listed =>
      Globals.takes_options rfl argument_notMem_commandNames writable.1 (fun _ => ⟨rfl, rfl⟩)
        option (writing.mem_before listed)
  have isCommand : line.command.name ∈ topLevel.commands := by
    cases line.command <;> simp [Command.name, topLevel, commandNames]
  exact Level.read_command takes writing.nodup_names.1 isCommand _

/-- Every command line is read back from the long options that it is written in: whichever of the options
for all commands stand in front of the command, in whichever order the others stand behind it, and
whatever the values and the inputs look like.
-/
theorem written_lines_read_back (line : CommandLine) (writable : line.IsWritable)
    : Nonempty line.Writing
      ∧ ∀ writing : line.Writing, ofArguments writing.arguments = .ok line := by
  refine ⟨⟨.standard line⟩, fun writing => ?_⟩
  obtain ⟨verbose, configFile⟩ := Globals.join_known writing.globals_given
  simp only [ofArguments, writing.read_before writable, writing.read_behind writable,
    Progress.settle_behind, bind, Except.bind]
  simp only [Progress.behind, verbose, configFile]
  rfl

/-- A command line with values and inputs that look like options, and with the largest number. -/
def lookalikes : CommandLine where
  verbose := true
  configFile := some ⟨"--"⟩
  command := .render
    { inputs := [⟨"-x"⟩, ⟨"--"⟩, ⟨"="⟩]
      theme := some "="
      noHighlight := true
      jobs := some 18446744073709551615 }

/-- A line with operands and values that look like options is read back. -/
theorem written_lines_read_back_of_lookalikes
    : lookalikes.IsWritable
      ∧ ofArguments
            ["--verbose", "render", "--jobs=18446744073709551615", "--config-file=--", "--theme==",
              "--no-highlight", "--", "-x", "--", "="]
          = .ok lookalikes := by
  have writable : lookalikes.IsWritable := by simp [IsWritable, lookalikes, maxNumber]
  refine ⟨writable, ?_⟩
  exact (written_lines_read_back lookalikes writable).2
    { before := [{ name := "verbose" }]
      after := [{ name := "config-file", value := some "--" }]
      own :=
        [{ name := "theme", value := some "=" }, { name := "no-highlight" },
          { name := "jobs", value := some "18446744073709551615" }]
      behind :=
        [{ name := "jobs", value := some "18446744073709551615" },
          { name := "config-file", value := some "--" }, { name := "theme", value := some "=" },
          { name := "no-highlight" }]
      placed := by decide
      complete := by decide
      spare := by decide
      order := by decide }

end Docpress.CommandLine
