import ProtocolBindings.Proofs.Command.Overwriting
import ProtocolBindings.Proofs.Generation

/-!
# Runs as transactions

A run that fails changes no file.  One that succeeds was asked for help and did nothing, or
it wrote its output and no other file, with the code that is generated from the inputs.
-/

namespace ProtocolBindings.Command

open Files (Commit Path Tree)

variable {tree : Tree}

/-- No text in a JSON file of the tree has half of a surrogate pair. -/
def HoldsWhole (tree : Tree) : Prop :=
  ∀ location content value, tree.content? location = some content →
    Json.read content = .ok value → value.Whole

theorem HoldsWhole.readJson (holds : HoldsWhole tree) {path : Path} {value : Json}
    (read : readJson tree path = .ok value) : value.Whole := by
  obtain ⟨content, file, parsed⟩ := bind_eq_ok_iff.mp read
  obtain ⟨location, _, held⟩ := Tree.readFile_eq_ok_iff.mp (mapError_eq_ok_iff.mp file)
  exact holds location content value held (mapError_eq_ok_iff.mp parsed)

namespace Invocation

variable {invocation : Invocation} {base config : Config} {version : Text} {task : Task}

/-! ## Inputs -/

/-- A configuration with the flags of an invocation on top. -/
structure Overrides (invocation : Invocation) (base config : Config) : Prop where
  strict : config.strictReferences =
    if invocation.strictReferences then .bool true else base.strictReferences
  output : if invocation.force then ∃ options, base.output = .options options ∧
      config.output = .options { options with mode := .force }
    else config.output = base.output
  others : config =
    { base with strictReferences := config.strictReferences, output := config.output }

/-- The version for an invocation: the one that is given, or else the one of the package, or
else none. -/
inductive Versioned (tree : Tree) (invocation : Invocation) : Text → Prop where
  | given {version : String} (stated : invocation.version = some version) :
      Versioned tree invocation version
  | package {path : Path} {members : List (Text × Json)} (unstated : invocation.version = none)
      (named : invocation.packageJson = some path)
      (read : readJson tree path = .ok (.object members)) :
      Versioned tree invocation (((Json.lookup "version" members).map Json.display).getD "")
  | absent (unstated : invocation.version = none) (unnamed : invocation.packageJson = none) :
      Versioned tree invocation ""

theorem overrides_of_configuration (configured : invocation.configuration tree = .ok config) :
    ∃ base, invocation.fileConfiguration tree = .ok base ∧ invocation.Overrides base config := by
  rw [configuration_eq] at configured
  obtain ⟨base, stated, flagged⟩ := bind_eq_ok_iff.mp configured
  refine ⟨base, stated, ?_⟩
  -- The output is read after the first flag, which leaves it as it is.
  have same : (if invocation.strictReferences
      then { base with strictReferences := .bool true } else base).output = base.output := by
    split <;> rfl
  cases forced : invocation.force with
  | false =>
      rw [forced, if_neg Bool.false_ne_true] at flagged
      cases flagged
      exact ⟨by split <;> rfl, by rw [forced, if_neg Bool.false_ne_true, same], by split <;> rfl⟩
  | true =>
      rw [forced, if_pos rfl] at flagged
      obtain ⟨options, got, ended⟩ := bind_eq_ok_iff.mp flagged
      rw [mapError_eq_ok_iff, Section.get_eq_ok_iff, same] at got
      cases ended
      exact ⟨by split <;> rfl, by rw [forced, if_pos rfl]; exact ⟨options, got, rfl⟩,
        by split <;> rfl⟩

theorem versioned_of_schemaVersion (stated : invocation.schemaVersion tree = .ok version) :
    invocation.Versioned tree version := by
  unfold schemaVersion at stated
  split at stated
  · rename_i given
    cases stated
    exact .given given
  · rename_i unstated named
    obtain ⟨description, read, known⟩ := bind_eq_ok_iff.mp stated
    obtain ⟨members, taken, ended⟩ := bind_eq_ok_iff.mp (mapError_eq_ok_iff.mp known)
    cases description with
    | object own =>
        cases taken
        have package := Versioned.package unstated named read
        split at ended
        · rename_i found
          cases ended
          rw [found] at package
          exact package
        · rename_i missing
          cases ended
          rw [missing] at package
          exact package
    | null | bool _ | integer _ | number _ | text _ | array _ => cases taken
  · rename_i unstated unnamed
    cases stated
    exact .absent unstated unnamed

/-! ## Whole inputs -/

theorem fileConfiguration_names (holds : HoldsWhole tree)
    (stated : invocation.fileConfiguration tree = .ok base) : base.NamesWhole := by
  unfold fileConfiguration at stated
  split at stated
  · obtain ⟨value, read, made⟩ := bind_eq_ok_iff.mp stated
    exact Config.namesWhole_ofJson (holds.readJson read) (mapError_eq_ok_iff.mp made)
  · cases stated
    exact Config.namesWhole_default

theorem Overrides.names (overrides : invocation.Overrides base config)
    (names : base.NamesWhole) : config.NamesWhole := by
  rw [overrides.others]
  exact ⟨names.server, names.client⟩

theorem Versioned.whole (holds : HoldsWhole tree) (versioned : invocation.Versioned tree version) :
    version.Whole := by
  cases versioned with
  | given stated => exact Text.whole_ofString _
  | @package path members unstated named read =>
      have package := Json.whole_object_iff.mp (holds.readJson read)
      cases found : Json.lookup "version" members with
      | none => exact Text.whole_ofString ""
      | some value => exact (package.lookup found).display
  | absent unstated unnamed => exact Text.whole_ofString ""

/-! ## Runs -/

/-- What an invocation generates from its inputs: the code of its schema under its
configuration, with its version and its line recorded. -/
inductive Generates (tree : Tree) (invocation : Invocation) (content : String) : Prop where
  | intro {document : Json} {base config : Config} {version : Text} {line : String}
      (read : readJson tree invocation.schema = .ok document)
      (stated : invocation.fileConfiguration tree = .ok base)
      (overrides : invocation.Overrides base config)
      (versioned : invocation.Versioned tree version)
      (recorded : recordedLine tree (some invocation) = .ok line)
      (generated : (Generation.generate config document (.text version) line).outcome =
        .ok (Text.ofString content)) :
      Generates tree invocation content

/-- The code of a task is a string that the invocation generates. -/
theorem exists_generates_of_task (holds : HoldsWhole tree)
    (made : invocation.task tree = .ok task) {code : Text}
    (generated : task.generate.outcome = .ok code) :
    ∃ content, code = Text.ofString content ∧ invocation.Generates tree content := by
  obtain ⟨document, config, version, line, read, configured, stated, recorded, rfl⟩ :=
    task_eq_ok_iff.mp made
  obtain ⟨base, file, overrides⟩ := overrides_of_configuration configured
  have versioned := versioned_of_schemaVersion stated
  have whole : code.Whole := Generation.generate_whole
    (overrides.names (fileConfiguration_names holds file)) (holds.readJson read)
    (.text (versioned.whole holds)) (Text.whole_ofString line) generated
  obtain ⟨content, rfl⟩ := Text.whole_iff_exists_string.mp whole
  exact ⟨content, rfl, read, file, overrides, versioned, recorded, generated⟩

/-- A run of an invocation writes what is generated, or changes no file. -/
theorem run_cases (invocation : Invocation) (holds : HoldsWhole tree) :
    ((invocation.run tree).exit = .ok () ∧ ∃ content, invocation.Generates tree content ∧
      tree.Wrote invocation.output content (invocation.run tree).tree) ∨
    ((∃ failure, (invocation.run tree).exit = .error failure) ∧
      (invocation.run tree).tree.content? = tree.content?) := by
  unfold run
  split
  · exact .inr ⟨⟨_, rfl⟩, rfl⟩
  · rename_i task made
    show ((task.perform tree).exit = .ok () ∧ ∃ content, _ ∧
        tree.Wrote _ content (task.perform tree).tree) ∨
      ((∃ failure, (task.perform tree).exit = .error failure) ∧
        (task.perform tree).tree.content? = tree.content?)
    unfold Task.perform
    dsimp only
    split
    · exact .inr ⟨⟨_, rfl⟩, rfl⟩
    · rename_i code generated
      obtain ⟨content, rfl, generates⟩ := exists_generates_of_task holds made generated
      have ends := Commit.writeOutput_ends Generation.validate task.output content tree
        task.config.output
      rw [(task_ok made).2] at ends
      unfold Task.write
      rw [(task_ok made).2]
      split
      · rename_i ended
        exact .inr ⟨⟨_, rfl⟩, ends.of_error ended⟩
      · rename_i ended
        exact .inl ⟨rfl, content, generates, ends.of_ok ended⟩

end Invocation

/-- A run that fails changes no file.  Asking for help does not fail and changes nothing; any
other run that succeeds writes what its invocation generates, and changes no other file. -/
structure Transactional (tree : Tree) (words : List String) : Prop where
  failed : ∀ failure, (run tree words).exit = .error failure →
    (run tree words).tree.content? = tree.content?
  helped : asksForHelp words = true →
    (run tree words).exit = .ok () ∧ (run tree words).tree = tree
  succeeded : asksForHelp words = false → (run tree words).exit = .ok () →
    ∃ invocation content, Understands tree words invocation ∧
      invocation.Generates tree content ∧
      tree.Wrote invocation.output content (run tree words).tree

/-- Every run on whole inputs is a transaction. -/
theorem transactional_of_run {tree : Tree} (holds : HoldsWhole tree) (words : List String) :
    Transactional tree words := by
  rcases run_cases tree words with
    ⟨help, ran⟩ | ⟨noHelp, ⟨failure, ran⟩ | ⟨invocation, understood, ran⟩⟩
  · constructor
    case failed =>
      intro failure ended
      rw [ran]
    case helped =>
      intro _
      rw [ran]
      exact ⟨rfl, rfl⟩
    case succeeded =>
      intro noHelp
      exact absurd (help.symm.trans noHelp) (by decide)
  · constructor
    case failed =>
      intro other ended
      rw [ran]
    case helped =>
      intro help
      exact absurd (help.symm.trans noHelp) (by decide)
    case succeeded =>
      intro _ ended
      rw [ran] at ended
      cases ended
  · constructor
    case failed =>
      intro failure ended
      rw [ran] at ended ⊢
      rcases invocation.run_cases holds with ⟨succeeded, _⟩ | ⟨_, kept⟩
      · cases ended.symm.trans succeeded
      · exact kept
    case helped =>
      intro help
      exact absurd (help.symm.trans noHelp) (by decide)
    case succeeded =>
      intro _ ended
      rw [ran] at ended ⊢
      rcases invocation.run_cases holds with ⟨_, content, generates, wrote⟩ | ⟨⟨_, failed⟩, _⟩
      · exact ⟨invocation, content, understood, generates, wrote⟩
      · cases ended.symm.trans failed

/-! ## Inputs that compete -/

theorem holdsWhole_of_nodes
    (each : ∀ node ∈ tree.nodes, ∀ content value, node.2 = .file content →
      Json.read content = .ok value → value.Whole) : HoldsWhole tree := by
  intro location content value held read
  have found := Tree.node?_of_content? held
  rw [Tree.node?] at found
  split at found
  · cases found
  · obtain ⟨before, after, split, _⟩ := List.lookup_eq_some_iff.mp found
    refine each (location, .file content) ?_ content value rfl read
    rw [split]
    exact List.mem_append_right _ List.mem_cons_self

/-- A tree with an output, a configuration that protects it, and the version of a package. -/
def packageTree : Tree where
  current := ["work"]
  nodes := [(["work"], .directory),
    (["work", "schema.json"], .file "\x7b\"definitions\": \x7b\x7d\x7d"),
    (["work", "config.json"], .file
      "\x7b\"output\": \x7b\"mode\": \"error\", \"validate_before_write\": false\x7d\x7d"),
    (["work", "package.json"], .file "\x7b\"version\": \"0.9\"\x7d"),
    (["work", "out.py"], .file "old\n")]

theorem holdsWhole_packageTree : HoldsWhole packageTree := by
  have schema : Json.read "\x7b\"definitions\": \x7b\x7d\x7d" =
      .ok (.object [("definitions", .object [])]) :=
    toOption_eq_some_iff.mp (by decide +kernel)
  have config : Json.read
      "\x7b\"output\": \x7b\"mode\": \"error\", \"validate_before_write\": false\x7d\x7d" =
      .ok (.object [("output", .object
        [("mode", .text "error"), ("validate_before_write", .bool false)])]) :=
    toOption_eq_some_iff.mp (by decide +kernel)
  have package : Json.read "\x7b\"version\": \"0.9\"\x7d" =
      .ok (.object [("version", .text "0.9")]) :=
    toOption_eq_some_iff.mp (by decide +kernel)
  have output : (Json.read "old\n").toOption = none := by decide +kernel
  have single (key : String) {value : Json} (whole : value.Whole) :
      (Json.object [(Text.ofString key, value)]).Whole :=
    .object (List.forall_mem_singleton.mpr (Text.whole_ofString key))
      (List.forall_mem_singleton.mpr whole)
  refine holdsWhole_of_nodes fun node member content value held read => ?_
  simp only [packageTree, List.mem_cons, List.not_mem_nil, or_false] at member
  rcases member with rfl | rfl | rfl | rfl | rfl
  · cases held
  · cases held
    cases schema.symm.trans read
    exact single "definitions" (.object nofun nofun)
  · cases held
    cases config.symm.trans read
    refine single "output" (.object ?_ ?_)
    · exact List.forall_mem_cons.mpr
        ⟨Text.whole_ofString _, List.forall_mem_singleton.mpr (Text.whole_ofString _)⟩
    · exact List.forall_mem_cons.mpr
        ⟨.text (Text.whole_ofString _), List.forall_mem_singleton.mpr (.bool _)⟩
  · cases held
    cases package.symm.trans read
    exact single "version" (.text (Text.whole_ofString _))
  · cases held
    rw [read] at output
    cases output

/-- The flags and the version that are given win. -/
theorem transactional_packageTree :
    let words := ["schema.json", "out.py", "-c", "config.json", "--version", "1.0",
      "--package-json", "package.json", "--strict-references", "-f"]
    HoldsWhole packageTree ∧ asksForHelp words = false ∧
      (run packageTree words).exit = .ok () ∧
      ∃ invocation content, Understands packageTree words invocation ∧
        invocation.Generates packageTree content ∧
        packageTree.Wrote invocation.output content (run packageTree words).tree := by
  intro words
  have noHelp : asksForHelp words = false := by decide +kernel
  have ended : (run packageTree words).exit = .ok () :=
    toOption_eq_some_iff.mp (by decide +kernel)
  have wrote := (transactional_of_run holdsWhole_packageTree words).succeeded noHelp ended
  exact ⟨holdsWhole_packageTree, noHelp, ended, wrote⟩

/-- A run that is asked for help succeeds without an output. -/
theorem noOutput_of_help :
    let words := ["schema.json", "new.py", "--help"]
    HoldsWhole packageTree ∧ (run packageTree words).exit = .ok () ∧
      ∀ content, (run packageTree words).tree.readFile (.ofNames ["work", "new.py"]) ≠
        .ok content := by
  intro words
  have ended : (run packageTree words).exit = .ok () :=
    toOption_eq_some_iff.mp (by decide +kernel)
  have absent : ((run packageTree words).tree.readFile
      (.ofNames ["work", "new.py"])).toOption = none := by
    decide +kernel
  refine ⟨holdsWhole_packageTree, ended, fun content read => ?_⟩
  rw [read] at absent
  cases absent

end ProtocolBindings.Command
