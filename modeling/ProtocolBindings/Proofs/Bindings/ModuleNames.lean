import ProtocolBindings.Proofs.Bindings.Imports
import ProtocolBindings.Proofs.Generation
import ProtocolBindings.Proofs.Resolve.Analysis

/-!
# Names of a module

A generated module binds the names that it imports, the version of the schema, one class for
each entity, and the interfaces.  Only the entities are told apart from each other, so that
a class can take the name of a helper or of another class.  Names are compared as they are
written, and not in the normal form in which the language takes them.
-/

namespace ProtocolBindings.Bindings

open Model

/-- A line of code, with the names of the module that it binds, as they are written. -/
structure Binding where
  line : Text
  names : List Text

/-- The lines that import names. -/
def importBindings (sources : List Source) : List Binding :=
  sources.map fun source => ⟨source.line, source.names.map fun name => name.name⟩

/-- The line that states the version of the schema. -/
def versionBinding (version : Json) : Binding :=
  ⟨"SCHEMA_VERSION = " ++ version.encode, ["SCHEMA_VERSION"]⟩

/-- The first line of an interface, if it has operations. -/
def interfaceBindings {α : Type} (name : Json) (operations : List α) : List Binding :=
  if operations.isEmpty then []
  else [⟨"class " ++ name.display ++ "(Protocol):", [name.display]⟩]

/-- The lines of the code of a model that bind names of the module, in their order. -/
def moduleBindings (config : Config) (model : Model) (sources : List Source) : List Binding :=
  importBindings sources ++ [versionBinding model.version] ++
    (orderEnums model.enumTypes).map (fun enumType => ⟨enumHead enumType, [enumType.name]⟩) ++
    (orderRecords model.records).map (fun record => ⟨recordHead record, [record.name]⟩) ++
    interfaceBindings config.serverInterfaceName model.requests ++
    interfaceBindings config.clientInterfaceName model.events

/-- Some bindings stand in code, in their order. -/
def HasBindings (code : Text) (bindings : List Binding) : Prop :=
  ∃ lines blank, joinLines lines = code ++ List.replicate blank (.char '\n') ∧
    (bindings.map Binding.line).Sublist lines

/-! ## Where names are bound -/

theorem sublist_separated (first second third : List String) :
    (first ++ second ++ third).Sublist (separated [first, second, third]) := by
  cases first <;> cases second <;> cases third <;> simp [separated, List.intercalate]

theorem heads_sublist_of_classesOf {α : Type} {render : α → Rendering (List Text)}
    {head : α → Text} {parts : List α} {lines : List Text}
    (heads : ∀ part own, (render part).outcome = .ok own → head part ∈ own)
    (rendered : (classesOf render parts).outcome = .ok lines) :
    (parts.map head).Sublist lines := by
  obtain ⟨classes, each, rfl⟩ := classesOf_ok_iff.mp rendered
  clear rendered
  induction each with
  | nil => exact List.nil_sublist _
  | @cons part own parts classes first _ ih =>
      have headed : [head part].Sublist (spaced own) :=
        (List.singleton_sublist.mpr (heads part own first)).trans (List.sublist_append_left _ _)
      exact headed.append ih

theorem enumHead_mem {enumType : EnumType} {lines : List Text}
    (rendered : (enumClass enumType).outcome = .ok lines) : enumHead enumType ∈ lines := by
  obtain ⟨described, members, -, -, rfl⟩ := enumClass_ok_iff.mp rendered
  simp [enumLines]

theorem recordHead_mem {record : Record} {lines : List Text}
    (rendered : (recordClass record).outcome = .ok lines) : recordHead record ∈ lines := by
  obtain ⟨fields, described, declarations, -, -, -, rfl⟩ := recordClass_ok_iff.mp rendered
  simp [linesAbove]

theorem interfaceBindings_sublist {α : Type} {name : Json} {description : Text}
    {method : α → Rendering Method} {operations : List α} {lines : List Text}
    (rendered : (interfaceOf name description method operations).outcome = .ok lines) :
    ((interfaceBindings name operations).map Binding.line).Sublist lines := by
  by_cases absent : operations = []
  · rw [absent]
    exact List.nil_sublist lines
  · obtain ⟨methods, declarations, -, -, rfl⟩ := (interfaceOf_ok_iff absent).mp rendered
    rw [interfaceBindings, if_neg (mt List.isEmpty_iff.mp absent)]
    simp [spaced, interfaceAbove]

theorem headLines_bindings {needs : Import → Prop} {trail : List Import}
    {future standard other : List Source}
    (imports : Imports needs (importLines trail) future standard other) (comment : Text)
    (version : Json) :
    ((importBindings (future ++ standard ++ other) ++ [versionBinding version]).map
      Binding.line).Sublist (headLines comment trail version) := by
  have grouped : ((future ++ standard ++ other).map Source.line).Sublist (importLines trail) := by
    rw [imports.written, List.map_append, List.map_append]
    exact sublist_separated _ _ _
  have lines : ((importBindings (future ++ standard ++ other)).map Binding.line).Sublist
      ((importLines trail).map Text.ofString) := by
    have imported := grouped.map Text.ofString
    rw [List.map_map] at imported
    rw [importBindings, List.map_map]
    exact imported
  have stated : [(versionBinding version).line].Sublist
      [emptyLine, "SCHEMA_VERSION = " ++ version.encode, emptyLine, emptyLine] :=
    ((List.nil_sublist _).cons_cons _).cons _
  rw [List.map_append, List.map_singleton, headLines]
  exact (lines.trans (List.sublist_append_right _ _)).append stated

section

variable {config : Config} {model : Model} {comment code : Text}
variable {future standard other : List Source}

/-- The names of a module are bound in its code, and what is imported is what it needs. -/
theorem exists_bindings_of_moduleText (distinct : (model.entities.map Entity.name).Nodup)
    (rendered : (moduleText config model comment).outcome = .ok code) :
    ∃ lines future standard other, Imports (NeededBy model) lines future standard other ∧
      HasBindings code (moduleBindings config model (future ++ standard ++ other)) := by
  obtain ⟨lines, blank, ended, written⟩ := joinLines_of_moduleText rendered
  have imports := imports_importLines (modelLines_leaves config distinct lines ended)
  refine ⟨_, _, _, _, imports, _, blank, written, ?_⟩
  obtain ⟨enumTypes, records, server, client, enumClasses, recordClasses, requests, events, rfl⟩ :=
    modelLines_ok_iff.mp ended
  have enums := heads_sublist_of_classesOf (fun _ _ => enumHead_mem) enumClasses
  have classes := heads_sublist_of_classesOf (fun _ _ => recordHead_mem) recordClasses
  have head := headLines_bindings imports comment model.version
  have body := ((head.append enums).append classes).append
    (interfaceBindings_sublist requests) |>.append (interfaceBindings_sublist events)
  simpa [moduleBindings, List.append_assoc, Function.comp_def] using body

/-! ## Names that are bound twice -/

/-- The names that some bindings bind, in order. -/
def boundNames (bindings : List Binding) : List Text := bindings.flatMap Binding.names

/-- Whether a name is imported, or is that of the version of the schema. -/
def IsHelper (model : Model) (name : Text) : Prop :=
  name = "SCHEMA_VERSION" ∨ ∃ helper, NeededBy model helper ∧ name = Import.name helper

/-- Whether no helper and no entity has a name. -/
def IsFree (model : Model) (name : Text) : Prop :=
  ¬ IsHelper model name ∧ ∀ entity ∈ model.entities, entity.name ≠ name

/-- No entity is named like a helper, and no interface like a helper, an entity or the other
interface. -/
structure Unshadowed (config : Config) (model : Model) : Prop where
  entities : ∀ entity ∈ model.entities, ¬ IsHelper model entity.name
  server : model.requests ≠ [] → IsFree model config.serverInterfaceName.display
  client : model.events ≠ [] → IsFree model config.clientInterfaceName.display
  interfaces : model.requests ≠ [] → model.events ≠ [] →
    config.serverInterfaceName.display ≠ config.clientInterfaceName.display

theorem ofString_injective : Function.Injective Text.ofString := by
  intro first second same
  have read := congrArg Text.string? same
  simpa using read

/-- The names of the helpers, in the order in which they are bound. -/
def helperNames (sources : List Source) : List Text :=
  (sources.flatMap fun source => source.names.map Import.name).map Text.ofString ++
    [Text.ofString "SCHEMA_VERSION"]

theorem mem_helperNames_iff {lines : List String}
    (imports : Imports (NeededBy model) lines future standard other) {name : Text} :
    name ∈ helperNames (future ++ standard ++ other) ↔ IsHelper model name := by
  rw [helperNames, ← List.map_flatMap, List.mem_append, List.mem_singleton, or_comm, IsHelper]
  refine or_congr_right ?_
  simp only [List.map_map, List.mem_map, imports.exactly]
  exact exists_congr fun helper => and_congr_right fun _ => eq_comm

theorem helperNames_nodup {lines : List String}
    (imports : Imports (NeededBy model) lines future standard other) :
    (helperNames (future ++ standard ++ other)).Nodup := by
  rw [helperNames, ← List.concat_eq_append, List.nodup_concat]
  refine ⟨fun among => ?_, imports.once.map ofString_injective⟩
  rw [← List.map_flatMap, List.map_map, List.mem_map] at among
  obtain ⟨helper, _, same⟩ := among
  cases helper <;> exact absurd same (by decide)

/-- The entities are the enumerations and the records. -/
theorem entities_perm (entities : List Entity) :
    ((entities.filterMap Entity.enumType?).map Entity.enumType ++
      (entities.filterMap Entity.record?).map Entity.record).Perm entities := by
  induction entities with
  | nil => exact .nil
  | cons entity entities ih =>
      cases entity with
      | record content => exact List.perm_middle.trans (ih.cons (.record content))
      | enumType content => exact ih.cons (.enumType content)

theorem entityNames_perm (entities : List Entity) :
    (((entities.filterMap Entity.enumType?).map EnumType.name) ++
      (entities.filterMap Entity.record?).map Record.name).Perm (entities.map Entity.name) := by
  have names := (entities_perm entities).map Entity.name
  rw [List.map_append, List.map_map, List.map_map] at names
  exact names

/-- The name of the interface of some operations, if there are any. -/
def interfaceNames {α : Type} (name : Json) (operations : List α) : List Text :=
  if operations.isEmpty then [] else [name.display]

theorem mem_interfaceNames_iff {α : Type} {name : Json} {operations : List α} {bound : Text} :
    bound ∈ interfaceNames name operations ↔ operations ≠ [] ∧ bound = name.display := by
  unfold interfaceNames
  cases operations <;> simp

theorem interfaceNames_nodup {α : Type} (name : Json) (operations : List α) :
    (interfaceNames name operations).Nodup := by
  unfold interfaceNames
  split
  · exact .nil
  · exact List.nodup_singleton _

theorem boundNames_perm (distinct : (model.entities.map Entity.name).Nodup)
    (sources : List Source) :
    (boundNames (moduleBindings config model sources)).Perm
      (helperNames sources ++ model.entities.map Entity.name ++
        interfaceNames config.serverInterfaceName model.requests ++
        interfaceNames config.clientInterfaceName model.events) := by
  have order := orderRecords_perm (distinct.sublist (names_records_sublist model.entities))
  have classes := ((orderEnums_perm model.enumTypes).map EnumType.name).append
    (order.map Record.name)
  have entities := classes.trans (entityNames_perm model.entities)
  have interfaceName {α : Type} (name : Json) (operations : List α) :
      (interfaceBindings name operations).flatMap Binding.names =
        interfaceNames name operations := by
    unfold interfaceBindings interfaceNames
    split <;> rfl
  have shape : boundNames (moduleBindings config model sources) =
      helperNames sources ++ ((orderEnums model.enumTypes).map EnumType.name ++
        (orderRecords model.records).map Record.name) ++
        interfaceNames config.serverInterfaceName model.requests ++
        interfaceNames config.clientInterfaceName model.events := by
    simp [boundNames, moduleBindings, importBindings, versionBinding, helperNames, interfaceName,
      List.flatMap_map, List.map_flatMap, ← List.map_eq_flatMap, Function.comp_def]
  rw [shape]
  exact ((entities.append_left _).append_right _).append_right _

/-- The names of a module are distinct exactly if none is shadowed. -/
theorem boundNames_nodup_iff (distinct : (model.entities.map Entity.name).Nodup)
    {lines : List String} (imports : Imports (NeededBy model) lines future standard other) :
    (boundNames (moduleBindings config model (future ++ standard ++ other))).Nodup ↔
      Unshadowed config model := by
  rw [(boundNames_perm distinct _).nodup_iff]
  simp only [List.nodup_append, List.mem_append, mem_helperNames_iff imports,
    mem_interfaceNames_iff, helperNames_nodup imports, distinct, interfaceNames_nodup, true_and]
  constructor
  · rintro ⟨⟨apart, server⟩, client⟩
    constructor
    case entities =>
      intro entity member helper
      exact apart _ helper _ (List.mem_map_of_mem member) rfl
    case server =>
      intro busy
      constructor
      · exact fun helper => server _ (.inl helper) _ ⟨busy, rfl⟩ rfl
      · exact fun entity member => server _ (.inr (List.mem_map_of_mem member)) _ ⟨busy, rfl⟩
    case client =>
      intro busy
      constructor
      · exact fun helper => client _ (.inl (.inl helper)) _ ⟨busy, rfl⟩ rfl
      · exact fun entity member =>
          client _ (.inl (.inr (List.mem_map_of_mem member))) _ ⟨busy, rfl⟩
    case interfaces => exact fun busy also => client _ (.inr ⟨busy, rfl⟩) _ ⟨also, rfl⟩
  · rintro ⟨entities, server, client, interfaces⟩
    refine ⟨⟨?_, ?_⟩, ?_⟩
    · rintro _ helper _ member rfl
      obtain ⟨entity, among, rfl⟩ := List.mem_map.mp member
      exact entities entity among helper
    · rintro _ (helper | member) _ ⟨busy, rfl⟩ rfl
      · exact (server busy).1 helper
      · obtain ⟨entity, among, same⟩ := List.mem_map.mp member
        exact (server busy).2 entity among same
    · rintro _ ((helper | member) | ⟨busy, rfl⟩) _ ⟨also, rfl⟩ same
      · exact (client also).1 (same ▸ helper)
      · obtain ⟨entity, among, own⟩ := List.mem_map.mp member
        exact (client also).2 entity among (own.trans same)
      · exact interfaces busy also same

/-- The code of a document binds the names of its helpers, entities and interfaces, and these
are written differently exactly if none is shadowed. -/
theorem moduleNames_of_generate {document version : Json} {commandLine : Text}
    (generated : (Generation.generate config document version commandLine).outcome = .ok code) :
    ∃ model lines future standard other,
      (Resolve.resolve config document version).outcome = .ok model ∧
      Imports (NeededBy model) lines future standard other ∧
      HasBindings code (moduleBindings config model (future ++ standard ++ other)) ∧
      ((boundNames (moduleBindings config model (future ++ standard ++ other))).Nodup ↔
        Unshadowed config model) := by
  obtain ⟨model, resolved, rendered⟩ := Generation.exists_model_of_generate generated
  have distinct := Resolve.names_nodup_of_resolve resolved
  obtain ⟨lines, future, standard, other, imports, stands⟩ :=
    exists_bindings_of_moduleText distinct rendered
  exact ⟨model, lines, future, standard, other, resolved, imports, stands,
    boundNames_nodup_iff distinct imports⟩

end

/-- A document whose first record is named like a helper that its second record needs. -/
def helperDocument : Json :=
  .object [("definitions", .object [
    ("config", .object [("properties", .object [])]),
    ("Later", .object [("properties", .object [
      ("class", .object [("type", .text "string")])])])])]

/-- A document with a record of a name of its own. -/
def ownDocument : Json :=
  .object [("definitions", .object [("Point", .object [("properties", .object [
    ("x", .object [("type", .text "integer")])])])])]

theorem moduleNames_ownDocument :
    ∃ code, (Generation.generate {} ownDocument .null "").outcome = .ok code ∧
      ∃ model lines future standard other,
        (Resolve.resolve {} ownDocument .null).outcome = .ok model ∧
        Imports (NeededBy model) lines future standard other ∧
        HasBindings code (moduleBindings {} model (future ++ standard ++ other)) ∧
        ((boundNames (moduleBindings {} model (future ++ standard ++ other))).Nodup ↔
          Unshadowed {} model) := by
  have succeeds : (Generation.generate {} ownDocument .null "").outcome.isOk = true := by
    decide +kernel
  have ended := Traced.outcome_eq_valueOr [] succeeds
  exact ⟨_, ended, moduleNames_of_generate ended⟩

/-- The helper is imported, and then its name is that of a class. -/
theorem helperDocument_bindsTwice :
    ∃ code, (Generation.generate {} helperDocument .null "").outcome = .ok code ∧
      ({} : Config).serverInterfaceName.display ≠ ({} : Config).clientInterfaceName.display ∧
      ∃ model lines future standard other,
        (Resolve.resolve {} helperDocument .null).outcome = .ok model ∧
        Imports (NeededBy model) lines future standard other ∧
        HasBindings code (moduleBindings {} model (future ++ standard ++ other)) ∧
        ¬ (boundNames (moduleBindings {} model (future ++ standard ++ other))).Nodup := by
  have succeeds : (Generation.generate {} helperDocument .null "").outcome.isOk = true := by
    decide +kernel
  have ended := Traced.outcome_eq_valueOr [] succeeds
  refine ⟨_, ended, by decide +kernel, ?_⟩
  obtain ⟨model, resolved, rendered⟩ := Generation.exists_model_of_generate ended
  have distinct := Resolve.names_nodup_of_resolve resolved
  obtain ⟨lines, future, standard, other, imports, stands⟩ :=
    exists_bindings_of_moduleText distinct rendered
  refine ⟨model, lines, future, standard, other, resolved, imports, stands, ?_⟩
  rw [boundNames_nodup_iff distinct imports]
  intro unshadowed
  have shape : (Resolve.resolve {} helperDocument .null).outcome.toOption.map (fun model =>
      decide ((∃ entity ∈ model.entities, entity.name = Text.ofString "config") ∧
        ∃ record ∈ model.records, ∃ property ∈ record.properties,
          identifier property.name ≠ property.name)) = some true := by
    decide +kernel
  rw [resolved] at shape
  obtain ⟨⟨entity, member, named⟩, renamed⟩ := of_decide_eq_true (Option.some.inj shape)
  exact unshadowed.entities entity member (.inr ⟨.config, renamed, named⟩)

end ProtocolBindings.Bindings
