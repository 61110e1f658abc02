import ProtocolBindings.Proofs.Command.Overwriting
import ProtocolBindings.Proofs.Files.Likeness

/-!
# The recorded line and the directory

The line that records a run shortens the path of what exists, and shows every other path in
full.  Two runs with the same words, in directories with the same files, record the same inputs;
their lines differ by the output only, which is shown in full before it exists.
-/

namespace ProtocolBindings.Command

open Files (IsName Node Path SystemError Tree)

variable {tree here there : Tree} {word value text option : String} {path own other : Path}

/-! ## Understood arguments -/

theorem pathOf_eq_ok_iff :
    pathOf tree word = .ok path ↔
      (Path.ofText word).mentions '\x00' = false ∧
      path = .ofNames ((Path.ofText word).resolveFrom tree.current) := by
  unfold pathOf
  dsimp only
  split
  · rename_i mentioned
    simp [mentioned]
  · rename_i unmentioned
    simp [unmentioned, eq_comm]

theorem inputPathOf_eq_ok_iff :
    inputPathOf tree word = .ok path ↔
      pathOf tree word = .ok path ∧ ∃ node, tree.look path = .ok node := by
  rw [inputPathOf, bind_eq_ok_iff]
  constructor
  · rintro ⟨found, given, answered⟩
    split at answered
    · cases answered
      exact ⟨given, _, ‹_›⟩
    · cases answered
  · rintro ⟨given, node, found⟩
    exact ⟨path, given, by rw [found]; rfl⟩

theorem pathOf_of_inputPathOf (given : inputPathOf tree word = .ok path) :
    pathOf tree word = .ok path :=
  (inputPathOf_eq_ok_iff.mp given).1

/-- What an invocation takes from its arguments, with the words of its operands. -/
structure Invocation.Takes (tree : Tree) (arguments : Arguments) (schema output : String)
    (invocation : Invocation) : Prop where
  operands : arguments.operands = [schema, output]
  schema : inputPathOf tree schema = .ok invocation.schema
  output : pathOf tree output = .ok invocation.output
  config : (arguments.value? .config).mapM (inputPathOf tree) = .ok invocation.config
  version : invocation.version = arguments.value? .version
  packageJson :
    (arguments.value? .packageJson).mapM (inputPathOf tree) = .ok invocation.packageJson
  strictReferences : invocation.strictReferences = arguments.has .strictReferences
  force : invocation.force = arguments.has .force
  verbose : invocation.verbose = arguments.has .verbose

theorem Invocation.takes_of_ofArguments {arguments : Arguments} {invocation : Invocation}
    (made : ofArguments tree arguments = .ok invocation) :
    ∃ schema output, invocation.Takes tree arguments schema output := by
  simp only [ofArguments, bind_eq_ok_iff] at made
  obtain ⟨_, _, config, configured, packageJson, packaged, made⟩ := made
  split at made
  · cases made
  · rename_i schema operands given
    obtain ⟨schemaPath, found, made⟩ := bind_eq_ok_iff.mp made
    cases operands with
    | nil => cases made
    | cons output surplus =>
        obtain ⟨outputPath, led, made⟩ := bind_eq_ok_iff.mp made
        split at made
        · rename_i single
          cases made
          rw [List.isEmpty_iff.mp single] at given
          exact ⟨schema, output, ⟨given, found, led, configured, rfl, packaged, rfl, rfl, rfl⟩⟩
        · cases made

/-- A setting that names an input has a path. -/
theorem exists_inputPath {path? : Option Path}
    (given : (some word).mapM (inputPathOf tree) = .ok path?) :
    ∃ path, path? = some path ∧ inputPathOf tree word = .ok path := by
  rw [Option.mapM_some, map_eq_pure_bind, bind_eq_ok_iff] at given
  obtain ⟨path, led, ⟨⟩⟩ := given
  exact ⟨path, rfl, led⟩

/-! ## Paths of operands -/

theorem isName_of_pathOf (stands : tree.Stands) (given : pathOf tree word = .ok path) :
    ∀ name ∈ (Path.ofText word).resolveFrom tree.current, IsName name :=
  Path.isName_of_mem_resolveFrom stands.proper (fun _ => Path.names_ofText)
    (pathOf_eq_ok_iff.mp given).1

theorem rooted_of_pathOf (stands : tree.Stands) (given : pathOf tree word = .ok path) :
    path.Rooted := by
  rw [(pathOf_eq_ok_iff.mp given).2]
  exact Path.rooted_ofNames (isName_of_pathOf stands given)

/-- A path whose last own name remains ends alike wherever one stands. -/
theorem name_eq_of_pathOf (named : (Path.ofText word).ownNames ≠ [])
    (given : pathOf here word = .ok own) (also : pathOf there word = .ok other) :
    own.name = other.name := by
  rw [(pathOf_eq_ok_iff.mp given).2, (pathOf_eq_ok_iff.mp also).2]
  exact Path.name_ofNames_resolveFrom named here.current there.current

/-- What is read is a file, and no directory above the one in which one stands. -/
theorem ownNames_ne_nil_of_readJson {document : Json} (stands : tree.Stands)
    (given : pathOf tree word = .ok path) (read : readJson tree path = .ok document) :
    (Path.ofText word).ownNames ≠ [] := by
  intro nameless
  obtain ⟨content, found, _⟩ := bind_eq_ok_iff.mp read
  obtain ⟨node, looked, held⟩ := bind_eq_ok_iff.mp (mapError_eq_ok_iff.mp found)
  rw [(pathOf_eq_ok_iff.mp given).2] at looked
  have there := (Tree.node?_of_look_ofNames (isName_of_pathOf stands given) looked).2
  obtain ⟨left, prior, led⟩ := (Path.ofText word).exists_resolveFrom_eq tree.current
  rw [led, nameless, List.append_nil, stands.grounded left prior] at there
  cases there
  cases held

/-! ## Shown values -/

namespace Invocation

theorem shown_eq_ok_iff :
    shown tree value = .ok text ↔
      tree.isPresent (.ofText value) = .ok true ∧ text = (Path.ofText value).name ∨
      tree.isPresent (.ofText value) = .ok false ∧ text = value := by
  rw [shown, bind_eq_ok_iff]
  constructor
  · rintro ⟨_ | _, answered, made⟩
    · exact .inr ⟨answered, (Except.ok.inj made).symm⟩
    · exact .inl ⟨answered, (Except.ok.inj made).symm⟩
  · rintro (⟨answered, rfl⟩ | ⟨answered, rfl⟩)
    · exact ⟨true, answered, rfl⟩
    · exact ⟨false, answered, rfl⟩

theorem shown_text_eq_ok_iff (rooted : path.Rooted) :
    shown tree path.text = .ok text ↔
      tree.isPresent path = .ok true ∧ text = path.name ∨
      tree.isPresent path = .ok false ∧ text = path.text := by
  rw [shown_eq_ok_iff, rooted.ofText_text]

/-- An input is there, and is shown by its name. -/
theorem shown_input (stands : tree.Stands) (given : inputPathOf tree word = .ok path) :
    shown tree path.text = .ok path.name := by
  obtain ⟨led, node, found⟩ := inputPathOf_eq_ok_iff.mp given
  exact (shown_text_eq_ok_iff (rooted_of_pathOf stands led)).mpr
    (.inl ⟨Tree.isPresent_of_look found, rfl⟩)

theorem shownSetting_input (stands : tree.Stands) (given : inputPathOf tree word = .ok path) :
    shownSetting tree option (some path.text) = .ok [option, path.name] := by
  have rooted := rooted_of_pathOf stands (pathOf_of_inputPathOf given)
  have full : path.text.isEmpty = false := by
    rw [Bool.eq_false_iff, Ne, String.isEmpty_iff]
    intro empty
    have start := rooted.described.1
    rw [empty] at start
    cases start
  rw [shownSetting, full, if_neg Bool.false_ne_true, shown_input stands given]
  rfl

/-- A setting that names an input is shown alike wherever one stands. -/
theorem shownSetting_input_eq {word? : Option String} {own? other? : Option Path}
    (stands : here.Stands) (also : there.Stands)
    (given : word?.mapM (inputPathOf here) = .ok own?)
    (found : word?.mapM (inputPathOf there) = .ok other?)
    (named : ∀ word, word? = some word → (Path.ofText word).ownNames ≠ []) :
    shownSetting here option (own?.map Path.text) =
      shownSetting there option (other?.map Path.text) := by
  cases word? with
  | none =>
      cases given
      cases found
      rfl
  | some word =>
      obtain ⟨path, rfl, led⟩ := exists_inputPath given
      obtain ⟨path', rfl, led'⟩ := exists_inputPath found
      rw [Option.map_some, Option.map_some, shownSetting_input stands led,
        shownSetting_input also led', name_eq_of_pathOf (named word rfl)
          (pathOf_of_inputPathOf led) (pathOf_of_inputPathOf led')]

/-- A value that does not lead outside if it is read as a path is shown alike. -/
theorem shown_eq_of_staysInside {text' : String} (same : here.SameFiles there)
    (inside : (Path.ofText value).staysInside = true) (shows : shown here value = .ok text)
    (also : shown there value = .ok text') : text = text' := by
  rcases shown_eq_ok_iff.mp shows with ⟨present, rfl⟩ | ⟨absent, rfl⟩
  all_goals rcases shown_eq_ok_iff.mp also with ⟨present', rfl⟩ | ⟨absent', rfl⟩
  · rfl
  · cases (same.present inside present).symm.trans absent'
  · cases (same.symm.present inside present').symm.trans absent
  · rfl

theorem shownSetting_eq_of_staysInside {value? : Option String} {texts texts' : List String}
    (same : here.SameFiles there)
    (inside : ∀ value, value? = some value → (Path.ofText value).staysInside = true)
    (shows : shownSetting here option value? = .ok texts)
    (also : shownSetting there option value? = .ok texts') : texts = texts' := by
  cases value? with
  | none =>
      cases shows
      cases also
      rfl
  | some value =>
      rw [shownSetting] at shows also
      split at shows
      · rename_i empty
        rw [if_pos empty] at also
        cases shows
        cases also
        rfl
      · rename_i full
        rw [if_neg full] at also
        obtain ⟨text, shown, ⟨⟩⟩ := bind_eq_ok_iff.mp shows
        obtain ⟨text', shown', ⟨⟩⟩ := bind_eq_ok_iff.mp also
        rw [shown_eq_of_staysInside same (inside value rfl) shown shown']

end Invocation

/-- Whether two paths are recorded by the same text: both are there and have one name, or
neither is there and they are one path. -/
def ShownAlike (here there : Tree) (own other : Path) : Prop :=
  here.isPresent own = .ok true ∧ there.isPresent other = .ok true ∧ own.name = other.name ∨
  here.isPresent own = .ok false ∧ there.isPresent other = .ok false ∧ own = other

theorem eq_iff_shownAlike {text' : String} (rooted : own.Rooted) (also : other.Rooted)
    (shows : Invocation.shown here own.text = .ok text)
    (shows' : Invocation.shown there other.text = .ok text') :
    text = text' ↔ ShownAlike here there own other := by
  rcases (Invocation.shown_text_eq_ok_iff rooted).mp shows with ⟨held, rfl⟩ | ⟨held, rfl⟩
  all_goals
    rcases (Invocation.shown_text_eq_ok_iff also).mp shows' with ⟨held', rfl⟩ | ⟨held', rfl⟩
  · simp [ShownAlike, held, held']
  · simp [ShownAlike, held, held', rooted.name_ne_text also]
  · simp [ShownAlike, held, held', (also.name_ne_text rooted).symm]
  · have texts : own.text = other.text ↔ own = other :=
      ⟨rooted.text_injective also, congrArg Path.text⟩
    simp [ShownAlike, held, held', texts]

/-! ## Recorded lines -/

theorem intercalate_cons_eq_iff {separator first second : String} {rest : List String} :
    String.intercalate separator (first :: rest) = String.intercalate separator (second :: rest) ↔
      first = second := by
  cases rest with
  | nil => rw [String.intercalate_singleton, String.intercalate_singleton]
  | cons next rest =>
      rw [String.intercalate_cons_cons, String.intercalate_cons_cons, String.append_left_inj,
        String.append_left_inj]

namespace Invocation

/-- What a line shows after the operands. -/
def shownOptions (invocation : Invocation) (config version packageJson : List String) :
    List String :=
  config ++ version ++ packageJson ++
    shownFlag "--strict-references" invocation.strictReferences ++
    shownFlag "--force" invocation.force ++ shownFlag "--verbose" invocation.verbose

theorem line_eq_ok_iff {invocation : Invocation} :
    invocation.line tree = .ok text ↔ ∃ schema output config version packageJson,
      shown tree invocation.schema.text = .ok schema ∧
      shown tree invocation.output.text = .ok output ∧
      shownSetting tree "--config" (invocation.config.map Path.text) = .ok config ∧
      shownSetting tree "--version" invocation.version = .ok version ∧
      shownSetting tree "--package-json" (invocation.packageJson.map Path.text) =
        .ok packageJson ∧
      text = String.intercalate " " (commandName :: schema :: output ::
        invocation.shownOptions config version packageJson) := by
  simp only [line, bind_eq_ok_iff]
  constructor
  · rintro ⟨schema, first, output, second, config, third, version, fourth, packageJson, fifth,
      made⟩
    exact ⟨schema, output, config, version, packageJson, first, second, third, fourth, fifth,
      (Except.ok.inj made).symm⟩
  · rintro ⟨schema, output, config, version, packageJson, first, second, third, fourth, fifth,
      rfl⟩
    exact ⟨schema, first, output, second, config, third, version, fourth, packageJson, fifth, rfl⟩

theorem exists_readJson_config {invocation : Invocation} {config : Config}
    (configured : invocation.configuration tree = .ok config)
    (named : invocation.config = some path) : ∃ document, readJson tree path = .ok document := by
  rw [configuration_eq] at configured
  obtain ⟨base, stated, _⟩ := bind_eq_ok_iff.mp configured
  rw [fileConfiguration, named] at stated
  obtain ⟨document, read, _⟩ := bind_eq_ok_iff.mp stated
  exact ⟨document, read⟩

theorem exists_readJson_packageJson {invocation : Invocation} {version : Text}
    (stated : invocation.schemaVersion tree = .ok version)
    (unstated : invocation.version = none) (named : invocation.packageJson = some path) :
    ∃ document, readJson tree path = .ok document := by
  rw [schemaVersion, unstated, named] at stated
  obtain ⟨document, read, _⟩ := bind_eq_ok_iff.mp stated
  exact ⟨document, read⟩

end Invocation

/-- Arguments with options that are recorded alike wherever one stands: a version that is given
does not lead outside if it is read as a path, and then the package has a name of its own. -/
structure Arguments.Portable (arguments : Arguments) : Prop where
  version : ∀ word, arguments.value? .version = some word →
    (Path.ofText word).staysInside = true
  packageJson : ∀ word, arguments.value? .packageJson = some word →
    arguments.value? .version ≠ none → (Path.ofText word).ownNames ≠ []

section

variable {arguments : Arguments} {schema output : String} {invocation : Invocation} {task : Task}

/-- Inputs that are read have names of their own. -/
theorem named_of_takes (stands : tree.Stands) (portable : arguments.Portable)
    (takes : invocation.Takes tree arguments schema output)
    (made : invocation.task tree = .ok task) :
    (Path.ofText schema).ownNames ≠ [] ∧
      (∀ word, arguments.value? .config = some word → (Path.ofText word).ownNames ≠ []) ∧
      ∀ word, arguments.value? .packageJson = some word → (Path.ofText word).ownNames ≠ [] := by
  obtain ⟨document, config, version, line, read, configured, stated, _, rfl⟩ :=
    Invocation.task_eq_ok_iff.mp made
  refine ⟨?_, ?_, ?_⟩
  · exact ownNames_ne_nil_of_readJson stands (pathOf_of_inputPathOf takes.schema) read
  · intro word given
    obtain ⟨path, named, led⟩ := exists_inputPath (given ▸ takes.config)
    obtain ⟨document, read⟩ := Invocation.exists_readJson_config configured named
    exact ownNames_ne_nil_of_readJson stands (pathOf_of_inputPathOf led) read
  · intro word given
    by_cases unstated : arguments.value? .version = none
    · obtain ⟨path, named, led⟩ := exists_inputPath (given ▸ takes.packageJson)
      obtain ⟨document, read⟩ := Invocation.exists_readJson_packageJson stated
        (takes.version.trans unstated) named
      exact ownNames_ne_nil_of_readJson stands (pathOf_of_inputPathOf led) read
    · exact portable.packageJson word given unstated

/-- The lines of two tasks differ by the output only. -/
theorem commandLine_eq_iff {invocation' : Invocation} {task' : Task} (stands : here.Stands)
    (also : there.Stands) (same : here.SameFiles there) (portable : arguments.Portable)
    (takes : invocation.Takes here arguments schema output)
    (takes' : invocation'.Takes there arguments schema output)
    (made : invocation.task here = .ok task) (made' : invocation'.task there = .ok task') :
    task.commandLine = task'.commandLine ↔ ShownAlike here there task.output task'.output := by
  obtain ⟨named, configNamed, packageNamed⟩ := named_of_takes stands portable takes made
  obtain ⟨_, _, _, line, _, _, _, recorded, rfl⟩ := Invocation.task_eq_ok_iff.mp made
  obtain ⟨_, _, _, line', _, _, _, recorded', rfl⟩ := Invocation.task_eq_ok_iff.mp made'
  obtain ⟨shownSchema, shownOutput, config, version, packageJson, schemaShows, outputShows,
    configShows, versionShows, packageShows, rfl⟩ := Invocation.line_eq_ok_iff.mp recorded
  obtain ⟨shownSchema', shownOutput', config', version', packageJson', schemaShows',
    outputShows', configShows', versionShows', packageShows', rfl⟩ :=
    Invocation.line_eq_ok_iff.mp recorded'
  -- Everything but the output is shown alike: inputs by the names they have in the words, and
  -- a version as it is or by the name of a file inside.
  have schemas : shownSchema = shownSchema' := by
    rw [Invocation.shown_input stands takes.schema] at schemaShows
    rw [Invocation.shown_input also takes'.schema] at schemaShows'
    cases schemaShows
    cases schemaShows'
    exact name_eq_of_pathOf named (pathOf_of_inputPathOf takes.schema)
      (pathOf_of_inputPathOf takes'.schema)
  have configs : config = config' := by
    rw [Invocation.shownSetting_input_eq stands also takes.config takes'.config configNamed]
      at configShows
    exact Except.ok.inj (configShows.symm.trans configShows')
  have packages : packageJson = packageJson' := by
    rw [Invocation.shownSetting_input_eq stands also takes.packageJson takes'.packageJson
      packageNamed] at packageShows
    exact Except.ok.inj (packageShows.symm.trans packageShows')
  have versions : version = version' := by
    rw [takes.version] at versionShows
    rw [takes'.version] at versionShows'
    exact Invocation.shownSetting_eq_of_staysInside same portable.version versionShows
      versionShows'
  have options : invocation.shownOptions config version packageJson =
      invocation'.shownOptions config' version' packageJson' := by
    rw [configs, versions, packages, Invocation.shownOptions, Invocation.shownOptions,
      takes.strictReferences, takes.force, takes.verbose, takes'.strictReferences, takes'.force,
      takes'.verbose]
  rw [schemas, options, String.intercalate_cons_cons, String.intercalate_cons_cons,
    String.intercalate_cons_cons, String.intercalate_cons_cons, String.append_right_inj,
    String.append_right_inj, intercalate_cons_eq_iff]
  exact eq_iff_shownAlike (rooted_of_pathOf stands takes.output)
    (rooted_of_pathOf also takes'.output) outputShows outputShows'

theorem exists_isPresent_of_task (stands : tree.Stands)
    (takes : invocation.Takes tree arguments schema output)
    (made : invocation.task tree = .ok task) :
    ∃ present, tree.isPresent task.output = .ok present := by
  obtain ⟨_, _, _, line, _, _, _, recorded, rfl⟩ := Invocation.task_eq_ok_iff.mp made
  obtain ⟨_, _, _, _, _, _, shows, _⟩ := Invocation.line_eq_ok_iff.mp recorded
  have rooted := rooted_of_pathOf stands takes.output
  rcases (Invocation.shown_text_eq_ok_iff rooted).mp shows with ⟨held, _⟩ | ⟨held, _⟩
  · exact ⟨true, held⟩
  · exact ⟨false, held⟩

end

/-! ## Outputs -/

section

variable {present present' : Bool}

/-- What a path that stays inside leads to is there in both trees or in neither. -/
theorem present_eq_of_staysInside (stands : here.Stands) (also : there.Stands)
    (same : here.SameFiles there) (inside : (Path.ofText word).staysInside = true)
    (given : pathOf here word = .ok own) (given' : pathOf there word = .ok other)
    (answered : here.isPresent own = .ok present)
    (answered' : there.isPresent other = .ok present') : present = present' := by
  have names := isName_of_pathOf stands given
  rw [(pathOf_eq_ok_iff.mp given).2, Path.resolveFrom_of_staysInside inside] at answered
  rw [(pathOf_eq_ok_iff.mp given').2, Path.resolveFrom_of_staysInside inside] at answered'
  rw [Path.resolveFrom_of_staysInside inside] at names
  have proper := (List.forall_mem_append.mp names).2
  cases present with
  | true => exact (same.present_ofNames stands also proper answered answered').symm
  | false =>
      cases present' with
      | true => exact same.symm.present_ofNames also stands proper answered' answered
      | false => rfl

/-- An output that stays inside is shown alike if it is there, or if one stands in one place. -/
theorem shownAlike_iff_of_staysInside (stands : here.Stands) (also : there.Stands)
    (same : here.SameFiles there) (inside : (Path.ofText word).staysInside = true)
    (named : (Path.ofText word).ownNames ≠ []) (given : pathOf here word = .ok own)
    (given' : pathOf there word = .ok other) (answered : here.isPresent own = .ok present)
    (answered' : there.isPresent other = .ok present') :
    ShownAlike here there own other ↔
      here.isPresent own = .ok true ∨ here.current = there.current := by
  have names := name_eq_of_pathOf named given given'
  obtain rfl := present_eq_of_staysInside stands also same inside given given' answered answered'
  constructor
  · rintro (⟨held, _, _⟩ | ⟨_, _, equal⟩)
    · exact .inl held
    · rw [(pathOf_eq_ok_iff.mp given).2, (pathOf_eq_ok_iff.mp given').2] at equal
      have led := Path.ofNames_injective equal
      rw [Path.resolveFrom_of_staysInside inside, Path.resolveFrom_of_staysInside inside] at led
      exact .inr (List.append_cancel_right led)
  · intro alike
    cases present with
    | true => exact .inl ⟨answered, answered', names⟩
    | false =>
        have current : here.current = there.current :=
          alike.resolve_left fun held => nomatch answered.symm.trans held
        refine .inr ⟨answered, answered', ?_⟩
        rw [(pathOf_eq_ok_iff.mp given).2, (pathOf_eq_ok_iff.mp given').2, current]

end

/-! ## Runs -/

/-- A successful run does a task: the words give it, and its code is written. -/
structure Performs (tree : Tree) (words : List String) (task : Task) (code : Text) : Prop where
  understood : ∃ invocation, Understands tree words invocation ∧ invocation.task tree = .ok task
  generated : task.generate.outcome = .ok code
  written : (task.write code).run tree = (.ok (), (run tree words).tree)

/-- A task that is done without a failure writes its code. -/
theorem Task.exists_written_of_perform {task : Task} (ended : (task.perform tree).exit = .ok ()) :
    ∃ code, task.generate.outcome = .ok code ∧
      (task.write code).run tree = (.ok (), (task.perform tree).tree) := by
  cases generated : task.generate.outcome with
  | error failure =>
      simp only [perform, generated] at ended
      cases ended
  | ok code =>
      cases written : (task.write code).run tree with
      | mk result after =>
          simp only [perform, generated, written] at ended ⊢
          cases result with
          | error failure => cases ended
          | ok _ => exact ⟨code, rfl, written⟩

/-- A run that is not asked for help and succeeds does its task. -/
theorem exists_performs_of_run {words : List String} (unhelped : asksForHelp words = false)
    (ended : (run tree words).exit = .ok ()) : ∃ task code, Performs tree words task code := by
  rcases run_cases tree words with
    ⟨help, _⟩ | ⟨_, ⟨failure, ran⟩ | ⟨invocation, understood, ran⟩⟩
  · cases help.symm.trans unhelped
  · rw [ran] at ended
    cases ended
  · cases made : invocation.task tree with
    | error failure =>
        rw [ran, Invocation.run, made] at ended
        cases ended
    | ok task =>
        have left : run tree words = { task.perform tree with
            report := invocation.wanted (task.perform tree).report } := by
          rw [ran, Invocation.run, made]
        rw [left] at ended
        obtain ⟨code, generated, written⟩ := Task.exists_written_of_perform ended
        exact ⟨task, code, ⟨invocation, understood, made⟩, generated, by rw [left]; exact written⟩

/-- Two successful runs with the same words, in directories with the same files, record the same
line exactly if they show the same output; for an output inside, if it is overwritten or if they
stand in the same place. -/
theorem commandLine_eq_iff_of_sameFiles {words : List String} {arguments : Arguments}
    (stands : here.Stands) (also : there.Stands) (same : here.SameFiles there)
    (parsed : Arguments.ofWords words = .ok arguments) (unhelped : arguments.has .help = false)
    (portable : arguments.Portable) (ended : (run here words).exit = .ok ())
    (ended' : (run there words).exit = .ok ()) :
    ∃ task task' code code', Performs here words task code ∧ Performs there words task' code' ∧
      (task.commandLine = task'.commandLine ↔
        ShownAlike here there task.output task'.output) ∧
      ∀ schema output, arguments.operands = [schema, output] →
        (Path.ofText output).staysInside = true → (Path.ofText output).ownNames ≠ [] →
        (task.commandLine = task'.commandLine ↔
          here.isPresent task.output = .ok true ∨ here.current = there.current) := by
  have noHelp : asksForHelp words = false := by rw [asksForHelp, parsed]; exact unhelped
  obtain ⟨task, code, performs⟩ := exists_performs_of_run noHelp ended
  obtain ⟨task', code', performs'⟩ := exists_performs_of_run noHelp ended'
  obtain ⟨invocation, ⟨given, read, understood⟩, made⟩ := performs.understood
  obtain ⟨invocation', ⟨given', read', understood'⟩, made'⟩ := performs'.understood
  cases parsed.symm.trans read
  cases parsed.symm.trans read'
  obtain ⟨schema, output, takes⟩ := Invocation.takes_of_ofArguments understood
  obtain ⟨schema', output', takes'⟩ := Invocation.takes_of_ofArguments understood'
  cases takes.operands.symm.trans takes'.operands
  have alike := commandLine_eq_iff stands also same portable takes takes' made made'
  refine ⟨task, task', code, code', performs, performs', alike, ?_⟩
  intro _ _ operands inside named
  cases takes.operands.symm.trans operands
  obtain ⟨present, answered⟩ := exists_isPresent_of_task stands takes made
  obtain ⟨present', answered'⟩ := exists_isPresent_of_task also takes' made'
  have given := (Invocation.task_ok made).2.symm ▸ takes.output
  have given' := (Invocation.task_ok made').2.symm ▸ takes'.output
  exact alike.trans
    (shownAlike_iff_of_staysInside stands also same inside named given given' answered answered')

/-! ## Two places -/

/-- A tree in which one stands in a directory below the root, with files in it. -/
def placedTree (directory : String) (files : List (String × String)) : Tree where
  current := [directory]
  nodes := ([directory], .directory) ::
    files.map fun (name, content) => ([directory, name], .file content)

theorem stands_placedTree {directory : String} (named : IsName directory)
    (files : List (String × String)) : (placedTree directory files).Stands where
  grounded above prior := by
    rcases List.prefix_concat_iff.mp (show above <+: [] ++ [directory] from prior) with rfl | root
    · simp [placedTree, Tree.node?]
    · rw [List.prefix_nil.mp root]
      rfl
  proper := List.forall_mem_singleton.mpr named

theorem lookup_placed (place : String) (files : List (String × String)) (location : List String) :
    (files.map fun (name, content) => ([place, name], Node.file content)).lookup
        (place :: location) =
      (files.map fun (name, content) => ([name], Node.file content)).lookup location := by
  induction files with
  | nil => rfl
  | cons file files ih =>
      rw [List.map_cons, List.map_cons, List.lookup_cons, List.lookup_cons, ih,
        List.cons_beq_cons, BEq.rfl, Bool.true_and]

/-- The same files are placed in both directories. -/
theorem sameFiles_placedTree (directory other : String) (files : List (String × String)) :
    (placedTree directory files).SameFiles (placedTree other files) := by
  intro location
  have held (place : String) : (placedTree place files).node? ([place] ++ location) =
      if location = [] then some .directory
      else (files.map fun (name, content) => ([name], Node.file content)).lookup location := by
    cases location with
    | nil => simp [placedTree, Tree.node?]
    | cons first rest =>
        rw [← lookup_placed place]
        simp [placedTree, Tree.node?, List.lookup_cons]
  exact (held directory).trans (held other).symm

/-- The files for a run with an empty schema, whose code is not judged. -/
def emptySchemaFiles : List (String × String) :=
  [("schema.json", "\x7b\"definitions\": \x7b\x7d\x7d"),
    ("config.json", "\x7b\"output\": \x7b\"validate_before_write\": false\x7d\x7d"),
    ("package.json", "\x7b\"version\": \"0.9\"\x7d")]

/-- The code for an empty schema, with the output as it is recorded. -/
def emptyModule (output : String) : String :=
  "# Generated by protocol_schema_to_code 1.0.0. Do not edit.\n" ++
  "# Command: protocol_schema_to_code schema.json " ++ output ++ " --config config.json\n" ++
  "from __future__ import annotations\n\nSCHEMA_VERSION = \"\"\n"

/-- An output that is not there yet is recorded with the directory in which one stands. -/
theorem commandLine_ne_freshOutput :
    let here := placedTree "work" emptySchemaFiles
    let there := placedTree "home" emptySchemaFiles
    let words := ["schema.json", "out.py", "--config", "config.json"]
    here.Stands ∧ there.Stands ∧ here.SameFiles there ∧
      (run here words).exit = .ok () ∧ (run there words).exit = .ok () ∧
      (run here words).tree.content? ["work", "out.py"] = some (emptyModule "/work/out.py") ∧
      (run there words).tree.content? ["home", "out.py"] = some (emptyModule "/home/out.py") ∧
      emptyModule "/work/out.py" ≠ emptyModule "/home/out.py" := by
  intro here there words
  have ended : (run here words).exit.toOption = some () := by decide +kernel
  have ended' : (run there words).exit.toOption = some () := by decide +kernel
  exact ⟨stands_placedTree (by decide) _, stands_placedTree (by decide) _,
    sameFiles_placedTree "work" "home" _, toOption_eq_some_iff.mp ended,
    toOption_eq_some_iff.mp ended', by decide +kernel, by decide +kernel, by decide⟩

/-- An output that is overwritten is recorded by its name, wherever one stands. -/
theorem commandLine_eq_overwrittenOutput :
    let files := ("out.py", "old\n") :: emptySchemaFiles
    let here := placedTree "work" files
    let there := placedTree "home" files
    let words := ["schema.json", "out.py", "--config", "config.json", "--version", "1.0",
      "--package-json", "package.json", "--force"]
    let arguments : Arguments := ⟨[.setting .config "config.json", .setting .version "1.0",
      .setting .packageJson "package.json", .flag .force], ["schema.json", "out.py"]⟩
    here.Stands ∧ there.Stands ∧ here.SameFiles there ∧ Arguments.ofWords words = .ok arguments ∧
      arguments.has .help = false ∧ arguments.Portable ∧
      (run here words).exit = .ok () ∧ (run there words).exit = .ok () ∧
      ∃ task task' code code', Performs here words task code ∧ Performs there words task' code' ∧
        task.commandLine = task'.commandLine := by
  intro files here there words arguments
  have stands : here.Stands := stands_placedTree (by decide) files
  have also : there.Stands := stands_placedTree (by decide) files
  have same := sameFiles_placedTree "work" "home" files
  have parsed : Arguments.ofWords words = .ok arguments :=
    toOption_eq_some_iff.mp (by decide +kernel)
  have portable : arguments.Portable := by
    refine ⟨fun word given => ?_, fun word given _ => ?_⟩
    · cases given
      decide +kernel
    · cases given
      decide +kernel
  have ended : (run here words).exit = .ok () := toOption_eq_some_iff.mp (by decide +kernel)
  have ended' : (run there words).exit = .ok () := toOption_eq_some_iff.mp (by decide +kernel)
  obtain ⟨task, task', code, code', performs, performs', -, inside⟩ :=
    commandLine_eq_iff_of_sameFiles stands also same parsed rfl portable ended ended'
  have held : here.isPresent task.output = .ok true := by
    obtain ⟨invocation, ⟨given, read, understood⟩, made⟩ := performs.understood
    cases parsed.symm.trans read
    obtain ⟨schema, output, takes⟩ := Invocation.takes_of_ofArguments understood
    cases takes.operands
    rw [(Invocation.task_ok made).2, (pathOf_eq_ok_iff.mp takes.output).2]
    exact toOption_eq_some_iff.mp (by decide +kernel)
  refine ⟨stands, also, same, parsed, rfl, portable, ended, ended', task, task', code, code',
    performs, performs', ?_⟩
  exact (inside "schema.json" "out.py" rfl (by decide +kernel) (by decide +kernel)).mpr
    (.inl held)

end ProtocolBindings.Command
