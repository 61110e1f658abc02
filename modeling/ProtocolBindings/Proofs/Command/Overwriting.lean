import ProtocolBindings.Command.Run
import ProtocolBindings.Proofs.Config
import ProtocolBindings.Proofs.Files.Commit

/-!
# Outputs that exist

Without the flag for it, a run overwrites an output that exists only if the configuration
states a mode for that: the mode of that name, or one that is no text and names nothing.
-/

namespace ProtocolBindings.Command

open Files (Commit Path Tree)

variable {tree : Tree}

/-- Whether an output that exists is overwritten by what the file of a configuration says. -/
def Invocation.StatesOverwriting (tree : Tree) (invocation : Invocation) : Prop :=
  ∃ path configuration mode, invocation.config = some path ∧
    readJson tree path = .ok configuration ∧
    Config.statedMode? configuration = some mode ∧ OutputMode.Overwrites mode

/-- Why a run may write to its output. -/
inductive Invocation.MayWrite (tree : Tree) (invocation : Invocation) : Prop where
  | forced (given : invocation.force = true)
  /-- There is no file yet. -/
  | fresh (absent : ∀ content, tree.readFile invocation.output ≠ .ok content)
  | stated (states : invocation.StatesOverwriting tree)

/-- Whether the words of a command line are understood as an invocation. -/
def Understands (tree : Tree) (words : List String) (invocation : Invocation) : Prop :=
  ∃ arguments, Arguments.ofWords words = .ok arguments ∧
    Invocation.ofArguments tree arguments = .ok invocation

/-- A configuration is an object without repeated keys. -/
theorem exists_members_of_configuration {path : Path} {configuration : Json} {config : Config}
    (read : readJson tree path = .ok configuration)
    (configured : Config.ofJson configuration = .ok config) :
    ∃ members, configuration = .object members ∧ (members.map Prod.fst).Nodup := by
  obtain ⟨content, _, parsed⟩ := bind_eq_ok_iff.mp read
  obtain ⟨members, found, _⟩ := bind_eq_ok_iff.mp configured
  cases configuration with
  | object own => exact ⟨own, rfl, Json.keys_nodup_read (mapError_eq_ok_iff.mp parsed)⟩
  | null | bool _ | integer _ | number _ | text _ | array _ => cases found

/-- The configuration that the file of an invocation gives, without the flags. -/
def Invocation.fileConfiguration (tree : Tree) (invocation : Invocation) :
    Except CommandFailure Config :=
  match invocation.config with
  | some path => do (Config.ofJson (← readJson tree path)).mapError .misuse
  | none => .ok {}

/-- The flags come on top of what the file gives. -/
theorem Invocation.configuration_eq (invocation : Invocation) :
    invocation.configuration tree = (do
      let base ← invocation.fileConfiguration tree
      let config := if invocation.strictReferences
        then { base with strictReferences := .bool true } else base
      if invocation.force then do
        let options ← config.output.get.mapError .misuse
        return { config with output := .options { options with mode := .force } }
      else return config) := by
  obtain ⟨schema, output, config, version, packageJson, strict, force, verbose⟩ := invocation
  cases config with
  | none => rfl
  | some path => exact (bind_assoc (readJson tree path) _ _).symm

theorem Invocation.configuration_of_unforced {invocation : Invocation}
    (unforced : invocation.force = false) :
    invocation.configuration tree = (do
      let config ← invocation.fileConfiguration tree
      return if invocation.strictReferences
        then { config with strictReferences := .bool true } else config) := by
  simp only [configuration_eq, unforced, Bool.false_eq_true, if_false]

/-- Without the flag, only what the configuration file says lets an output that exists be
overwritten. -/
theorem Invocation.mode_ne_errorIfExists_iff {invocation : Invocation} {config : Config}
    {options : OutputOptions} (unforced : invocation.force = false)
    (configured : invocation.configuration tree = .ok config)
    (given : config.output = .options options) :
    options.mode ≠ .errorIfExists ↔ invocation.StatesOverwriting tree := by
  rw [configuration_of_unforced unforced, bind_eq_ok_iff] at configured
  obtain ⟨base, stated, flagged⟩ := configured
  have same : base.output = .options options := by
    cases flagged
    split at given <;> exact given
  cases named : invocation.config with
  | none =>
      rw [fileConfiguration, named] at stated
      cases stated
      cases same
      exact ⟨fun differs => absurd rfl differs,
        fun ⟨_, _, _, other, _⟩ => nomatch named.symm.trans other⟩
  | some path =>
      rw [fileConfiguration, named] at stated
      obtain ⟨configuration, read, made⟩ := bind_eq_ok_iff.mp stated
      have parsed := mapError_eq_ok_iff.mp made
      obtain ⟨members, rfl, distinct⟩ := exists_members_of_configuration read parsed
      rw [Config.mode_ne_errorIfExists_iff distinct parsed same]
      constructor
      · rintro ⟨mode, states, overwrites⟩
        exact ⟨path, _, mode, named, read, states, overwrites⟩
      · rintro ⟨_, _, mode, other, alsoRead, states, overwrites⟩
        cases named.symm.trans other
        cases read.symm.trans alsoRead
        exact ⟨mode, states, overwrites⟩

theorem Invocation.task_eq_ok_iff {invocation : Invocation} {task : Task} :
    invocation.task tree = .ok task ↔ ∃ document config version line,
      readJson tree invocation.schema = .ok document ∧
      invocation.configuration tree = .ok config ∧
      invocation.schemaVersion tree = .ok version ∧
      recordedLine tree (some invocation) = .ok line ∧
      task = ⟨document, config, .text version, line, invocation.output⟩ := by
  simp only [Invocation.task, bind_eq_ok_iff, mapError_eq_ok_iff]
  constructor
  · rintro ⟨document, read, config, configured, version, stated, line, recorded, made⟩
    exact ⟨document, config, version, line, read, configured, stated, recorded,
      (Except.ok.inj made).symm⟩
  · rintro ⟨document, config, version, line, read, configured, stated, recorded, rfl⟩
    exact ⟨document, read, config, configured, version, stated, line, recorded, rfl⟩

theorem Invocation.task_ok {invocation : Invocation} {task : Task}
    (made : invocation.task tree = .ok task) :
    invocation.configuration tree = .ok task.config ∧ task.output = invocation.output := by
  obtain ⟨_, _, _, _, _, configured, _, _, rfl⟩ := task_eq_ok_iff.mp made
  exact ⟨configured, rfl⟩

/-- An invocation that may not write finds a file, and is not to overwrite it. -/
theorem Invocation.write_ends_of_not_mayWrite {invocation : Invocation} {task : Task}
    (kept : ¬invocation.MayWrite tree) (made : invocation.task tree = .ok task) (code : Text) :
    (task.write code).Ends tree (fun _ _ => False) (fun _ after => after = tree) := by
  obtain ⟨configured, same⟩ := task_ok made
  have unforced : invocation.force = false :=
    Bool.eq_false_iff.mpr fun given => kept (.forced given)
  have present : tree.isPresent task.output = .ok true := by
    by_cases held : ∃ content, tree.readFile invocation.output = .ok content
    · obtain ⟨content, read⟩ := held
      rw [same]
      exact Tree.isPresent_of_readFile read
    · exact absurd (.fresh fun content read => held ⟨content, read⟩) kept
  refine Commit.writeOutput_ends_of_present _ present code fun options given => ?_
  refine Decidable.byContradiction fun overwrites => kept (.stated ?_)
  exact (mode_ne_errorIfExists_iff unforced configured given).mp overwrites

theorem Invocation.tree_run_of_not_mayWrite {invocation : Invocation}
    (kept : ¬invocation.MayWrite tree) : (invocation.run tree).tree = tree := by
  unfold run
  split
  · rfl
  · rename_i task made
    show (task.perform tree).tree = tree
    unfold Task.perform
    dsimp only
    split
    · rfl
    · rename_i code _
      have ends := write_ends_of_not_mayWrite kept made code
      split
      · rename_i ended
        exact ends.of_error ended
      · rename_i ended
        exact (ends.of_ok ended).elim

/-- A run is asked for help, fails before it has an invocation, or is that of one. -/
theorem run_cases (tree : Tree) (words : List String) :
    (asksForHelp words = true ∧ run tree words = ⟨.ok (), tree, []⟩) ∨
    asksForHelp words = false ∧
      ((∃ failure, run tree words = ⟨.error failure, tree, []⟩) ∨
        ∃ invocation, Understands tree words invocation ∧
          run tree words = invocation.run tree) := by
  unfold run asksForHelp
  cases parsed : Arguments.ofWords words with
  | error error => exact .inr ⟨rfl, .inl ⟨_, rfl⟩⟩
  | ok arguments =>
      dsimp only
      cases arguments.has .help with
      | true => exact .inl ⟨rfl, rfl⟩
      | false =>
          cases made : Invocation.ofArguments tree arguments with
          | error failure => exact .inr ⟨rfl, .inl ⟨_, rfl⟩⟩
          | ok invocation =>
              have understood : Understands tree words invocation := ⟨_, parsed, made⟩
              exact .inr ⟨rfl, .inr ⟨invocation, understood, rfl⟩⟩

/-- A run changes the tree only for an invocation that may write. -/
theorem mayWrite_of_run (tree : Tree) (words : List String) :
    (run tree words).tree = tree ∨
      ∃ invocation, Understands tree words invocation ∧ invocation.MayWrite tree := by
  rcases run_cases tree words with ⟨_, ran⟩ | ⟨_, ⟨_, ran⟩ | ⟨invocation, understood, ran⟩⟩
  · exact .inl (by rw [ran])
  · exact .inl (by rw [ran])
  · by_cases may : invocation.MayWrite tree
    · exact .inr ⟨invocation, understood, may⟩
    · rw [ran]
      exact .inl (invocation.tree_run_of_not_mayWrite may)

/-- How an output that exists is guarded: the tree is changed only if the flag is given, if
there is no such output, or if a mode is stated for that; and every such mode writes as the
one of that name does. -/
structure GuardsOutput (tree : Tree) (words : List String) : Prop where
  kept : (run tree words).tree = tree ∨
    ∃ invocation, Understands tree words invocation ∧ invocation.MayWrite tree
  forces : ∀ invocation task options, Understands tree words invocation →
    invocation.force = false → invocation.task tree = .ok task →
    task.config.output = .options options →
    (invocation.StatesOverwriting tree ↔ options.mode ≠ .errorIfExists) ∧
    (invocation.StatesOverwriting tree → ∀ code, task.write code =
      Commit.writeOutput Generation.validate task.output code
        (.options { options with mode := .force }))

theorem guardsOutput_of_run (tree : Tree) (words : List String) : GuardsOutput tree words where
  kept := mayWrite_of_run tree words
  forces invocation task options _ unforced made given := by
    have stated := Invocation.mode_ne_errorIfExists_iff unforced (Invocation.task_ok made).1 given
    refine ⟨stated.symm, fun states code => ?_⟩
    rw [Task.write, given]
    exact Commit.writeOutput_eq_force _ task.output code (stated.mpr states)

/-- A tree with a configuration whose mode is null, and with an output. -/
def unnamedModeTree : Tree where
  current := ["work"]
  nodes := [(["work"], .directory),
    (["work", "schema.json"], .file "\x7b\"definitions\": \x7b\x7d\x7d"),
    (["work", "config.json"], .file
      "\x7b\"output\": \x7b\"mode\": null, \"validate_before_write\": false\x7d\x7d"),
    (["work", "out.py"], .file "old\n")]

/-- An invocation in that tree without the flag. -/
def unnamedModeInvocation : Invocation where
  schema := .ofNames ["work", "schema.json"]
  output := .ofNames ["work", "out.py"]
  config := some (.ofNames ["work", "config.json"])

/-- With null for a mode, an output that exists is overwritten without the flag. -/
theorem overwritten_unnamedModeTree :
    let words := ["schema.json", "out.py", "--config", "config.json"]
    let outcome := run unnamedModeTree words
    Understands unnamedModeTree words unnamedModeInvocation ∧
      unnamedModeInvocation.force = false ∧
      (∃ configuration,
        readJson unnamedModeTree (.ofNames ["work", "config.json"]) = .ok configuration ∧
        Config.statedMode? configuration = some .null) ∧
      unnamedModeTree.content? ["work", "out.py"] = some "old\n" ∧
      outcome.exit = .ok () ∧
      outcome.tree.content? ["work", "out.py"] ≠ some "old\n" := by
  intro words outcome
  have ended : outcome.exit.toOption = some () ∧
      outcome.tree.content? ["work", "out.py"] ≠ some "old\n" := by
    decide +kernel
  refine ⟨⟨⟨[.setting .config "config.json"], ["schema.json", "out.py"]⟩, ?_, ?_⟩, rfl,
    ⟨.object [("output", .object [("mode", .null), ("validate_before_write", .bool false)])],
      ?_, rfl⟩, ?_, toOption_eq_some_iff.mp ended.1, ended.2⟩
  · exact toOption_eq_some_iff.mp (by decide +kernel)
  · exact toOption_eq_some_iff.mp (by decide +kernel)
  · exact toOption_eq_some_iff.mp (by decide +kernel)
  · decide +kernel

end ProtocolBindings.Command
