import ProtocolBindings.Proofs.Config

/-!
# Exchange of configurations

A configuration that can be exported is read back from its export, whatever its options
hold.  A member of the object that is read has no effect unless it names an option, or one
of the few other attributes of a configuration.
-/

namespace ProtocolBindings

/-! ## Sections -/

@[simp] theorem FormatterOptions.ofMembers_members (options : FormatterOptions) :
    ofMembers options.members = .ok options := by
  simp [ofMembers, members, assign, bind, Except.bind, pure, Except.pure]

theorem OutputMode.ofJson_name {mode : OutputMode} {name : Text} (named : mode.name = .ok name) :
    ofJson (.text name) = .ok mode := by
  cases mode with
  | errorIfExists =>
      cases named
      rfl
  | force =>
      cases named
      rfl
  | unnamed value => cases named

theorem OutputOptions.ofMembers_members {options : OutputOptions}
    {members : List (Text × Json)} (exported : options.members = .ok members) :
    ofMembers members = .ok options := by
  obtain ⟨name, named, ended⟩ := bind_eq_ok_iff.mp exported
  cases ended
  have read := OutputMode.ofJson_name named
  have first : Json.lookup "mode" [("mode", Json.text name),
      ("validate_before_write", options.validateBeforeWrite),
      ("atomic_write", options.atomicWrite)] = some (.text name) := rfl
  rw [ofMembers, first]
  simp only [read]
  rfl

namespace Config

variable {config : Config} {key : Text} {value exported : Json}

theorem required_eq_ok_iff {option : Option Json} : required option = .ok value ↔
    option = some value := by
  cases option <;> simp [required]

theorem ofJson_object (members : List (Text × Json)) :
    ofJson (.object members) =
      members.foldlM (fun config (key, value) => config.assign key value) {} := rfl

/-! ## The export -/

/-- The members of an export, given the parts that a configuration may lack. -/
def exportedMembers (config : Config) (reserved ignored : Json)
    (formatter output : List (Text × Json)) : List (Text × Json) :=
  [("strict_references", config.strictReferences),
    ("open_enum_marker", config.openEnumMarker),
    ("reserved_base_types", reserved),
    ("ignore_classes", ignored),
    ("add_generation_comment", config.addGenerationComment),
    ("server_interface_name", config.serverInterfaceName),
    ("client_interface_name", config.clientInterfaceName),
    ("formatter", .object formatter),
    ("output", .object output)]

/-- A configuration that is exported lacks nothing, and its export has all options. -/
theorem exists_of_toJson (written : config.toJson = .ok exported) :
    ∃ reserved ignored formatter output outputMembers,
      OutputOptions.members output = .ok outputMembers ∧
      config = { config with
        reservedBaseTypes := some reserved
        ignoreClasses := some ignored
        formatter := .options formatter
        output := .options output
        exportReplaced := false } ∧
      exported = .object (config.exportedMembers reserved ignored formatter.members
        outputMembers) := by
  unfold toJson at written
  split at written
  · cases written
  · rename_i own
    obtain ⟨reserved, hasReserved, written⟩ := bind_eq_ok_iff.mp written
    obtain ⟨ignored, hasIgnored, written⟩ := bind_eq_ok_iff.mp written
    obtain ⟨formatter, hasFormatter, written⟩ := bind_eq_ok_iff.mp written
    obtain ⟨output, hasOutput, written⟩ := bind_eq_ok_iff.mp written
    obtain ⟨outputMembers, named, ended⟩ := bind_eq_ok_iff.mp written
    cases ended
    refine ⟨reserved, ignored, formatter, output, outputMembers, named, ?_, rfl⟩
    rw [required_eq_ok_iff] at hasReserved hasIgnored
    rw [Section.get_eq_ok_iff] at hasFormatter hasOutput
    rw [Bool.not_eq_true] at own
    rw [← hasReserved, ← hasIgnored, ← hasFormatter, ← hasOutput, ← own]

/-- A member for each option, of whatever value, replaces what a configuration said before. -/
theorem members_exportedMembers (start : Config) {reserved ignored : Json}
    {formatter : FormatterOptions} {output : OutputOptions}
    {outputMembers : List (Text × Json)} (named : output.members = .ok outputMembers) :
    (config.exportedMembers reserved ignored formatter.members outputMembers).foldlM
        (fun config (key, value) => config.assign key value) start =
      .ok { config with
        reservedBaseTypes := start.reservedBaseTypes.map fun _ => reserved
        ignoreClasses := start.ignoreClasses.map fun _ => ignored
        formatter := .options formatter
        output := .options output
        exportReplaced := start.exportReplaced } := by
  have read := OutputOptions.ofMembers_members named
  simp [exportedMembers, assign, read, bind, Except.bind, pure, Except.pure]

/-- A configuration is read back from its export. -/
theorem ofJson_of_toJson (written : config.toJson = .ok exported) :
    ofJson exported = .ok config := by
  obtain ⟨reserved, ignored, formatter, output, outputMembers, named, whole, rfl⟩ :=
    exists_of_toJson written
  rw [ofJson_object, members_exportedMembers {} named]
  exact congrArg Except.ok whole.symm

/-- Whatever a configuration was read from, if it can be exported, then its export gives the
same configuration, and the same export again. -/
theorem exchange_of_ofJson
    (written : (do let config ← ofJson value; config.toJson) = .ok exported) :
    ∃ config, ofJson value = .ok config ∧ config.toJson = .ok exported ∧
      ofJson exported = .ok config ∧
      (do let config ← ofJson exported; config.toJson) = .ok exported := by
  obtain ⟨config, read, exports⟩ := bind_eq_ok_iff.mp written
  have again := ofJson_of_toJson exports
  exact ⟨config, read, exports, again, bind_eq_ok_iff.mpr ⟨config, again, exports⟩⟩

/-- Options in an unusual order and of unusual types, after the attributes were replaced. -/
def scatteredOptions : Json :=
  .object [("output", .object [("atomic_write", .array []), ("mode", .text "force")]),
    ("unknown_option", .integer 1),
    ("__dict__", .object [("ignore_classes", .text "Message"), ("reserved_base_types", .null),
      ("client_interface_name", .bool true)]),
    ("formatter", .object [("line_length", .text "wide"), ("enabled", .null)]),
    ("strict_references", .object [("formatter", .null)]),
    ("output", .object [("mode", .text "error")])]

theorem exchange_scatteredOptions :
    ∃ exported, (do let config ← ofJson scatteredOptions; config.toJson) = .ok exported ∧
      ∃ config, ofJson scatteredOptions = .ok config ∧ config.toJson = .ok exported ∧
        config.ignoreClasses = some (.text "Message") ∧
        ofJson exported = .ok config ∧
        (do let config ← ofJson exported; config.toJson) = .ok exported := by
  have ignored : (ofJson scatteredOptions).toOption.map Config.ignoreClasses =
      some (some (.text "Message")) := by
    decide +kernel
  obtain ⟨exported, written⟩ : ∃ exported,
      (do let config ← ofJson scatteredOptions; config.toJson) = .ok exported := ⟨_, rfl⟩
  obtain ⟨config, read, exports, again⟩ := exchange_of_ofJson written
  rw [read] at ignored
  exact ⟨exported, written, config, read, exports, Option.some.inj ignored, again⟩

/-! ## Members without effect -/

/-- The names of the options. -/
def optionNames : List Text :=
  ["strict_references", "open_enum_marker", "reserved_base_types", "ignore_classes",
    "add_generation_comment", "server_interface_name", "client_interface_name", "formatter",
    "output"]

/-- The names of the other attributes of a configuration that can be seen to change, or that
refuse to. -/
def attributeNames : List Text := ["to_dict", "__dict__", "__weakref__", "__class__"]

/-- A key has no effect if every object gives the same configuration, or fails to give one
for the same reason, with a member of that key as without it. -/
def Inert (key : Text) : Prop :=
  ∀ (value : Json) (before after : List (Text × Json)),
    ofJson (.object (before ++ (key, value) :: after)) = ofJson (.object (before ++ after))

/-- A key that names nothing leaves a configuration as it is. -/
theorem assign_of_unnamed (config : Config) (value : Json) (option : key ∉ optionNames)
    (other : key ∉ attributeNames) : config.assign key value = .ok config := by
  have differs (name : String) (named : Text.ofString name ∈ optionNames ++ attributeNames) :
      key.string? ≠ some name := by
    intro same
    rw [Text.string?_eq_some_iff.mp same] at option other
    exact (List.mem_append.mp named).elim option other
  unfold assign
  split
  case h_14 => rfl
  all_goals
    rename_i same
    exact absurd same (differs _ (by decide))

theorem inert_of_unnamed (option : key ∉ optionNames) (other : key ∉ attributeNames) :
    Inert key := by
  intro value before after
  rw [ofJson_object, ofJson_object, List.foldlM_append, List.foldlM_append]
  congr 1
  funext config
  simp only [List.foldlM_cons, assign_of_unnamed config value option other]
  rfl

/-- The names of the options, and those of a few other attributes, are the only keys that
have an effect. -/
theorem inert_iff : Inert key ↔ key ∉ optionNames ∧ key ∉ attributeNames := by
  refine ⟨fun inert => ?_, fun unnamed => inert_of_unnamed unnamed.1 unnamed.2⟩
  -- Each of these names has an effect alone, with the value null.
  have effective : ∀ name ∈ optionNames ++ attributeNames,
      ofJson (.object [(name, .null)]) ≠ ofJson (.object []) := by
    decide +kernel
  rw [← not_or, ← List.mem_append]
  exact fun named => effective key named (inert .null [] [])

/-- A member that names no option can keep a configuration from being exported. -/
theorem export_refused_of_unnamedOption :
    Text.ofString "to_dict" ∉ optionNames ∧
    (∃ exported, (do let config ← ofJson (.object []); config.toJson) = .ok exported) ∧
    (ofJson (.object [("to_dict", .integer 1)])).isOk = true ∧
    (do let config ← ofJson (.object [("to_dict", .integer 1)]); config.toJson) =
      .error .replacedExport :=
  ⟨by decide, ⟨_, rfl⟩, by decide +kernel, by decide +kernel⟩

end Config

end ProtocolBindings
