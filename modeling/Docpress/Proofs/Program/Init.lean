import Docpress.Highlight.PlainText
import Docpress.Markdown
import Docpress.Program.Commands
import Docpress.Proofs.FileSystem.Semantics

/-!
Making a configuration file, and loading what was made. The format of the text goes by an argument and
the format in which it is read by the extension of the path, so that the file is loaded as the defaults
exactly if the two are the same.
-/

namespace Docpress

open FileTree FileSemantics

section

variable {m : Type → Type} [Monad m] [FileSystem m] [FileSemantics m]
  {files after : FileTree}

namespace Program

/-- Making the directory of a file lets the tree grow by directories at most. -/
theorem grows_makeParent {path : Path} {result : Except (List String) Unit}
    (ends : Ends (makeParent path : m _) files result after)
    : files.Grows after := by
  unfold makeParent at ends
  split at ends
  next =>
    obtain ⟨_, rfl⟩ := ends_pure.mp ends
    exact .refl _
  next parent _ =>
    obtain ⟨present, between, asked, ends⟩ := ends_bind.mp ends
    obtain ⟨_, same⟩ := isPresent asked
    rw [same] at ends
    split at ends
    next =>
      obtain ⟨_, rfl⟩ := ends_pure.mp ends
      exact .refl _
    next =>
      obtain ⟨_, _, made, rest⟩ := ends_bind.mp ends
      obtain ⟨_, rfl⟩ := ends_pure.mp rest
      exact grows_makeLineage made

/-- How the making of a configuration file can end. -/
inductive InitEnds (arguments : InitArguments) (files : FileTree) : Outcome → FileTree → Prop where
  /-- Directories are made at most. -/
  | stopped {outcome : Outcome} {after : FileTree} (failed : outcome.exitCode = 1)
    (grows : files.Grows after)
    : InitEnds arguments files outcome after
  /-- The file is written, or an attempt is made. -/
  | attempted {outcome : Outcome} {ready after : FileTree} {result : Except FileError Unit}
    (permitted : files.find? arguments.output = none ∨ arguments.force = true)
    (grows : files.Grows ready)
    (write
      : FileEffect.Write arguments.output (({} : Config).write arguments.format) ready result
          after)
    (ended : outcome.exitCode = 0 → result = .ok ())
    : InitEnds arguments files outcome after

/-- Making a configuration file ends in one of the ways that are listed, along the steps of the command.
-/
theorem initEnds_of_ends {arguments : InitArguments} {outcome : Outcome}
    (ends : Ends (init arguments : m _) files outcome after)
    : InitEnds arguments files outcome after := by
  unfold init at ends
  obtain ⟨present, between, asked, ends⟩ := ends_bind.mp ends
  obtain ⟨rfl, same⟩ := isPresent asked
  rw [same] at ends
  split at ends
  next =>
    obtain ⟨rfl, rfl⟩ := ends_pure.mp ends
    exact .stopped rfl (.refl _)
  next free =>
    -- The command goes on only if no file is in the way, or if it may overwrite one.
    have permitted : files.find? arguments.output = none ∨ arguments.force = true := by
      simpa [Option.isSome_iff_ne_none, imp_iff_not_or] using free
    obtain ⟨made, ready, parent, ends⟩ := ends_bind.mp ends
    have grows := grows_makeParent parent
    match made with
    | .error errors =>
        obtain ⟨rfl, rfl⟩ := ends_pure.mp ends
        exact .stopped rfl grows
    | .ok () =>
        obtain ⟨told, last, wrote, ends⟩ := ends_bind.mp ends
        unfold Config.writeDefault at wrote
        obtain ⟨result, written, attempt, wrote⟩ := ends_bind.mp wrote
        have effect := write attempt
        cases result with
        | error cause =>
            obtain ⟨rfl, rfl⟩ := ends_pure.mp wrote
            obtain ⟨rfl, rfl⟩ := ends_pure.mp ends
            exact .attempted permitted grows effect nofun
        | ok done =>
            obtain ⟨rfl, rfl⟩ := ends_pure.mp wrote
            obtain ⟨rfl, rfl⟩ := ends_pure.mp ends
            exact .attempted permitted grows effect fun _ => rfl

end Program

end

/-! ### Loading what was made -/

namespace Config

/-- The text of a file with every default. -/
def defaultText : ConfigFormat → String
  | .toml =>
    "format = \"html\"\n\n[render]\ngfm = true\nstructured_tables = true\nhighlight_code = true\n"
      ++ "heading_ids = \"verbatim\"\ntable_mode = \"lenient\"\n"
  | .json =>
    "\x7b\n  \"output_dir\": null,\n  \"format\": \"html\",\n  \"jobs\": null,\n  \"render\": \x7b\n"
      ++ "    \"gfm\": true,\n    \"structured_tables\": true,\n    \"highlight_code\": true,\n"
      ++ "    \"highlight_theme\": null,\n    \"default_language\": null,\n"
      ++ "    \"heading_ids\": \"verbatim\",\n    \"table_mode\": \"lenient\"\n  \x7d\n\x7d"

/-- The text with every default is the one that is written out here, for each format. -/
theorem write_default (format : ConfigFormat) : ({} : Config).write format = defaultText format := by
  cases format <;> decide +kernel

set_option maxRecDepth 2000 in
/-- The defaults are read from their text in the same format, and in the other format nothing is. -/
theorem ofText?_defaultText (format other : ConfigFormat)
    : ofText? other (defaultText format) = if other = format then some {} else none := by
  -- The characters are listed first: taking them from the bytes of a string is slow to check.
  have first {text : String} {chars : List Char} (same : text = String.ofList chars)
      : text.toList = chars := by
    rw [same, String.toList_ofList]
  have next {front text : String} {before chars : List Char} (known : front.toList = before)
      (same : text = String.ofList chars)
      : (front ++ text).toList = before ++ chars := by
    rw [String.toList_append, known, first same]
  cases format with
  | toml =>
      have listed : (defaultText .toml).toList = _ := next (first rfl) rfl
      cases other with
      | toml =>
          rw [ofText?, Toml.ofText?, listed]
          decide +kernel
      | json =>
          rw [ofText?, Json.Source.ofText?, listed]
          decide +kernel
  | json =>
      have listed : (defaultText .json).toList = _ := next (next (next (first rfl) rfl) rfl) rfl
      cases other with
      | toml =>
          rw [ofText?, Toml.ofText?, listed]
          decide +kernel
      | json =>
          rw [ofText?, Json.Source.ofText?, listed]
          decide +kernel

/-- What the text with every default in a format is loaded as, if it stands in the file of a path. -/
def ofDefaults (format : ConfigFormat) (path : Path) : Except ConfigError Config :=
  match formatOf path with
  | .error cause => .error cause
  | .ok other => if other = format then .ok {} else .error (.malformed other path)

/-- Loading the text with every default depends only on whether it is in the format that the path asks
for.
-/
theorem ofFileText_write_default (format : ConfigFormat) (path : Path)
    : ofFileText path (({} : Config).write format) = ofDefaults format path := by
  rw [write_default]
  unfold ofFileText ofDefaults
  cases formatOf path with
  | error cause => rfl
  | ok other =>
      simp only [bind, Except.bind, ofText?_defaultText]
      by_cases same : other = format
      · simp only [same, if_true]
        rfl
      · simp only [same, if_false]
        rfl

/-- The text with every default is loaded as the defaults just if it is in the format that the path asks
for.
-/
theorem ofDefaults_eq_ok_iff {format : ConfigFormat} {path : Path}
    : ofDefaults format path = .ok {} ↔ formatOf path = .ok format := by
  unfold ofDefaults
  cases formatOf path with
  | error cause => simp
  | ok other =>
      by_cases same : other = format
      · simp [same]
      · simp [same]

/-- Loading a configuration reads its file and changes none. -/
theorem load_run (path : Path) (files : FileTree)
    : (load path : StateM FileTree _).run files
      = ((files.readText path).mapError (ConfigError.unreadable path) >>= ofFileText path, files) := by
  have read : (FileSystem.readText path : StateM FileTree _).run files
      = (files.readText path, files) := rfl
  unfold load
  rw [StateT.run_bind, read]
  cases files.readText path <;> rfl

end Config

namespace Program

section

variable [Markdown.Reader] [SyntaxLibrary] {line : CommandLine} {arguments : InitArguments}
  {files after : FileTree} {outcome : Outcome}

/-- After a success the file that the path names holds the defaults. -/
theorem readText_of_init (named : line.command = .init arguments)
    (ran : (execute line : StateM FileTree _).run files = (outcome, after))
    (success : outcome.exitCode = 0)
    : after.readText arguments.output = .ok (({} : Config).write arguments.format) := by
  have made : (init arguments : StateM FileTree _).run files = (outcome, after) := by
    rw [← ran, execute, named]
  cases initEnds_of_ends (m := StateM FileTree) made with
  | stopped failed => cases failed.symm.trans success
  | attempted permitted grows write ended =>
      cases ended success
      cases write with
      | done written => exact readText_of_write written

/-- What a successful run has made is loaded as the defaults are in its format. -/
theorem load_of_init (named : line.command = .init arguments)
    (ran : (execute line : StateM FileTree _).run files = (outcome, after))
    (success : outcome.exitCode = 0)
    : (Config.load arguments.output : StateM FileTree _).run after
      = (Config.ofDefaults arguments.format arguments.output, after) := by
  rw [Config.load_run, readText_of_init named ran success]
  exact congrArg (·, after) (Config.ofFileText_write_default _ _)

/-- A configuration file that was made is loaded as the defaults exactly if the extension of its path
stands for the format that it was made in; otherwise it is refused for its extension or as malformed.
Where it is loaded, every command does with it what it does without a configuration file.
-/
theorem generated_config_loads (named : line.command = .init arguments)
    (ran : (execute line : StateM FileTree _).run files = (outcome, after))
    (success : outcome.exitCode = 0)
    : (Config.load arguments.output : StateM FileTree _).run after
          = (Config.ofDefaults arguments.format arguments.output, after)
      ∧ (Config.ofDefaults arguments.format arguments.output = .ok {}
          ↔ Config.formatOf arguments.output = .ok arguments.format)
      ∧ (Config.formatOf arguments.output = .ok arguments.format
          → ∀ later : CommandLine,
              (execute { later with configFile := some arguments.output } : StateM FileTree _).run
                  after
                = (execute { later with configFile := none } : StateM FileTree _).run after) := by
  have loaded := load_of_init named ran success
  refine ⟨loaded, Config.ofDefaults_eq_ok_iff, ?_⟩
  intro matching later
  rw [Config.ofDefaults_eq_ok_iff.mpr matching] at loaded
  have resolved (command : Command)
      : (Config.resolve ⟨later.verbose, some arguments.output, command⟩ : StateM FileTree _).run after
        = (Config.resolve ⟨later.verbose, none, command⟩ : StateM FileTree _).run after := by
    unfold Config.resolve
    dsimp only
    rw [StateT.run_bind, loaded]
    rfl
  unfold execute
  cases later.command with
  | init arguments => rfl
  | stylesheet arguments =>
      dsimp only
      rw [StateT.run_bind, StateT.run_bind, resolved]
  | render arguments =>
      dsimp only
      rw [StateT.run_bind, StateT.run_bind, resolved]

end

/-- What is made without arguments is loaded, and makes no difference to later runs. -/
theorem generated_config_loads_of_sample
    : let ran := (execute { command := .init {} } : StateM FileTree _).run {}
      ran.1.exitCode = 0
      ∧ ((Config.load ⟨"folio.toml"⟩ : StateM FileTree _).run ran.2).1 = .ok {}
      ∧ ∀ command : Command,
          (execute { configFile := some ⟨"folio.toml"⟩, command := command }
              : StateM FileTree _).run ran.2
            = (execute { command := command } : StateM FileTree _).run ran.2 := by
  intro ran
  have ends : (execute { command := .init {} } : StateM FileTree _).run {} = (ran.1, ran.2) := rfl
  have success : ran.1.exitCode = 0 := by decide +kernel
  have matching : Config.formatOf ⟨"folio.toml"⟩ = .ok .toml := by decide +kernel
  obtain ⟨loaded, defaults, later⟩ := generated_config_loads rfl ends success
  refine ⟨success, ?_, fun command => later matching { command := command }⟩
  rw [loaded]
  exact defaults.mpr matching

/-- What is made in the other format without a path of its own is refused. -/
theorem generated_json_refused
    : let line : CommandLine := { command := .init { format := .json } }
      let ran := (execute line : StateM FileTree _).run {}
      ran.1.exitCode = 0
      ∧ ((Config.load ⟨"folio.toml"⟩ : StateM FileTree _).run ran.2).1
        = .error (.malformed .toml ⟨"folio.toml"⟩) := by
  intro line ran
  have ends : (execute line : StateM FileTree _).run {} = (ran.1, ran.2) := rfl
  have success : ran.1.exitCode = 0 := by decide +kernel
  have refused : Config.ofDefaults .json ⟨"folio.toml"⟩ = .error (.malformed .toml ⟨"folio.toml"⟩) := by
    decide +kernel
  have named : line.command = .init { format := .json } := rfl
  have loaded := load_of_init named ends success
  exact ⟨success, (congrArg Prod.fst loaded).trans refused⟩

end Program

end Docpress
