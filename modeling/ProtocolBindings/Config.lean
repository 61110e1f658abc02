import ProtocolBindings.Json.Access

/-!
# Configuration

The options of a run are read from an object, whose members may have any type;
a value is judged only where it is used.  The formatter and the output have a
section of options each.  Members that name no option are passed over, except
for a few that name another attribute of a configuration.
-/

namespace ProtocolBindings

/-- Options of the formatter. -/
structure FormatterOptions where
  enabled : Json := .bool false
  lineLength : Json := .integer 100
  targetVersion : Json := .text "py312"
  stringNormalization : Json := .bool true
  magicTrailingComma : Json := .bool true
deriving DecidableEq, Repr

/-- What to do with an output file that exists. -/
inductive OutputMode where
  /-- Refuse to write. -/
  | errorIfExists
  /-- Overwrite it. -/
  | force
  /-- A value that is no text and names no mode. -/
  | unnamed (value : Json)
deriving DecidableEq, Repr

/-- Options of the output. -/
structure OutputOptions where
  mode : OutputMode := .errorIfExists
  validateBeforeWrite : Json := .bool true
  atomicWrite : Json := .bool true
deriving DecidableEq, Repr

/-- A section of the configuration: its options, a value that was given instead,
or nothing at all. -/
inductive Section (α : Type) where
  | options (value : α)
  | other (value : Json)
  | absent
deriving DecidableEq, Repr

/-- The options of a section. -/
def Section.get {α : Type} : Section α → Except Misuse α
  | .options value => .ok value
  | .other _ => .error .nonSection
  | .absent => .error .absentOption

/-- The base messages that every target provides itself. -/
def baseMessages : List Text := ["ProtocolMessage", "Request", "Event", "Response"]

/-- The options of a run.  The lists and sections are absent only after the
attributes as a whole were replaced. -/
structure Config where
  strictReferences : Json := .bool false
  openEnumMarker : Json := .text "_enum"
  reservedBaseTypes : Option Json := some (.array (baseMessages.map .text))
  ignoreClasses : Option Json := some (.array [])
  addGenerationComment : Json := .bool true
  serverInterfaceName : Json := .text "DebugProtocolServer"
  clientInterfaceName : Json := .text "DebugProtocolClient"
  formatter : Section FormatterOptions := .options {}
  output : Section OutputOptions := .options {}
  /-- Whether the export was replaced by a value. -/
  exportReplaced : Bool := false
deriving DecidableEq, Repr

/-- Give an option of the formatter a value. -/
def FormatterOptions.assign (options : FormatterOptions) (key : Text) (value : Json) :
    Except Misuse FormatterOptions :=
  match key.string? with
  | some "enabled" => .ok { options with enabled := value }
  | some "line_length" => .ok { options with lineLength := value }
  | some "target_version" => .ok { options with targetVersion := value }
  | some "string_normalization" => .ok { options with stringNormalization := value }
  | some "magic_trailing_comma" => .ok { options with magicTrailingComma := value }
  | _ => .error .unknownFormatterOption

/-- The options of the formatter that members give. -/
def FormatterOptions.ofMembers (members : List (Text × Json)) :
    Except Misuse FormatterOptions :=
  members.foldlM (fun options (key, value) => options.assign key value) {}

/-- The options of the formatter as members. -/
def FormatterOptions.members (options : FormatterOptions) : List (Text × Json) :=
  [("enabled", options.enabled), ("line_length", options.lineLength),
    ("target_version", options.targetVersion),
    ("string_normalization", options.stringNormalization),
    ("magic_trailing_comma", options.magicTrailingComma)]

/-- The mode that a value names. -/
def OutputMode.ofJson : Json → Except Misuse OutputMode
  | .text name =>
      match name.string? with
      | some "error" => .ok .errorIfExists
      | some "force" => .ok .force
      | _ => .error .unknownOutputMode
  | value => .ok (.unnamed value)

/-- The name of a mode. -/
def OutputMode.name : OutputMode → Except Misuse Text
  | .errorIfExists => .ok "error"
  | .force => .ok "force"
  | .unnamed _ => .error .nonSection

/-- The options of the output that members give. -/
def OutputOptions.ofMembers (members : List (Text × Json)) :
    Except Misuse OutputOptions := do
  let mode ← match Json.lookup "mode" members with
    | some value => OutputMode.ofJson value
    | none => pure .errorIfExists
  return {
    mode := mode
    validateBeforeWrite := (Json.lookup "validate_before_write" members).getD (.bool true)
    atomicWrite := (Json.lookup "atomic_write" members).getD (.bool true) }

/-- The options of the output as members. -/
def OutputOptions.members (options : OutputOptions) : Except Misuse (List (Text × Json)) := do
  let mode ← options.mode.name
  return [("mode", .text mode), ("validate_before_write", options.validateBeforeWrite),
    ("atomic_write", options.atomicWrite)]

namespace Config

/-- The configuration whose attributes are the given members: scalar options
that are missing have their default, lists and sections are absent. -/
def ofAttributes (attributes : List (Text × Json)) : Config :=
  let standard : Config := {}
  let option (key : Text) (default : Json) := (Json.lookup key attributes).getD default
  { strictReferences := option "strict_references" standard.strictReferences
    openEnumMarker := option "open_enum_marker" standard.openEnumMarker
    reservedBaseTypes := Json.lookup "reserved_base_types" attributes
    ignoreClasses := Json.lookup "ignore_classes" attributes
    addGenerationComment := option "add_generation_comment" standard.addGenerationComment
    serverInterfaceName := option "server_interface_name" standard.serverInterfaceName
    clientInterfaceName := option "client_interface_name" standard.clientInterfaceName
    formatter := match Json.lookup "formatter" attributes with
      | some value => .other value
      | none => .absent
    output := match Json.lookup "output" attributes with
      | some value => .other value
      | none => .absent
    exportReplaced := Json.hasKey "to_dict" attributes }

/-- Give the option or attribute of a name a value. -/
def assign (config : Config) (key : Text) (value : Json) : Except Misuse Config :=
  match key.string? with
  | some "strict_references" => .ok { config with strictReferences := value }
  | some "open_enum_marker" => .ok { config with openEnumMarker := value }
  | some "reserved_base_types" =>
      .ok { config with reservedBaseTypes := config.reservedBaseTypes.map fun _ => value }
  | some "ignore_classes" =>
      .ok { config with ignoreClasses := config.ignoreClasses.map fun _ => value }
  | some "add_generation_comment" => .ok { config with addGenerationComment := value }
  | some "server_interface_name" => .ok { config with serverInterfaceName := value }
  | some "client_interface_name" => .ok { config with clientInterfaceName := value }
  | some "formatter" =>
      match value with
      | .object members => do
          let options ← FormatterOptions.ofMembers members
          return { config with formatter := .options options }
      | value => .ok (if config.formatter = .absent then config
          else { config with formatter := .other value })
  | some "output" =>
      match value with
      | .object members => do
          let options ← OutputOptions.ofMembers members
          return { config with output := .options options }
      | value => .ok (if config.output = .absent then config
          else { config with output := .other value })
  | some "to_dict" => .ok { config with exportReplaced := true }
  | some "__dict__" =>
      match value with
      | .object attributes => .ok (ofAttributes attributes)
      | _ => .error .nonObjectAttributes
  | some "__weakref__" => .error .fixedAttribute
  | some "__class__" => .error .replacedKind
  | _ => .ok config

/-- The configuration that an object gives, member by member. -/
def ofJson (value : Json) : Except Misuse Config := do
  let members ← value.members
  members.foldlM (fun config (key, value) => config.assign key value) {}

/-- An option that may be absent. -/
def required : Option Json → Except Misuse Json
  | some value => .ok value
  | none => .error .absentOption

/-- The configuration as an object with all options. -/
def toJson (config : Config) : Except Misuse Json := do
  if config.exportReplaced then .error .replacedExport
  else
    let reserved ← required config.reservedBaseTypes
    let ignored ← required config.ignoreClasses
    let formatter ← config.formatter.get
    let output ← config.output.get
    let outputMembers ← output.members
    return .object [
      ("strict_references", config.strictReferences),
      ("open_enum_marker", config.openEnumMarker),
      ("reserved_base_types", reserved),
      ("ignore_classes", ignored),
      ("add_generation_comment", config.addGenerationComment),
      ("server_interface_name", config.serverInterfaceName),
      ("client_interface_name", config.clientInterfaceName),
      ("formatter", .object formatter.members),
      ("output", .object outputMembers)]

end Config

end ProtocolBindings
