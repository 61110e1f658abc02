import ProtocolBindings.Proofs.Resolve.NamePaths

/-!
# The order of entities

The entities of a model come in one block for each definition.  A block lists what is inline
in a definition from the outside inwards: a record stands in front of the blocks of its
properties, and these are in the order of the properties.  Blocks are given in outline, that is
with everything but the types of properties, which follow from elsewhere.
-/

namespace ProtocolBindings

namespace Model

def RecordProperty.outline (property : RecordProperty) : RecordProperty :=
  { property with type := .any }

/-- An entity without the types of its properties. -/
def Entity.outline : Entity → Entity
  | .record content =>
      .record { content with properties := content.properties.map RecordProperty.outline }
  | .enumType content => .enumType content

end Model

namespace Resolve

open Model
open Schema (Definition Fragment ObjectShape Place Property definition?)
open Reference (Follow)

/-! ## Blocks -/

/-- The outline of a record with the given properties. -/
def recordOutline (name : Text) (base : Option Text) (description : Json) (synthesized : Bool)
    (properties : List (Property Fragment)) : Entity :=
  .record {
    name := name
    base := base
    properties := properties.map fun property => {
      name := property.name
      type := .any
      required := property.required
      description := property.place.description }
    description := description
    synthesized := synthesized }

mutual

/-- What is inline in a fragment: one enumeration, one record with the block of its
properties, or nothing.  The items of an array are named as the array is. -/
def inlineBlock (name : Text) : Fragment → List Entity
  | .enumeration values => [.enumType (enumTypeOf name values true)]
  | .object shape => objectBlock name shape
  | .array _ (some items) => inlineBlock name items
  | _ => []

def objectBlock (name : Text) : ObjectShape Fragment → List Entity
  | ⟨place, properties, declared, _⟩ =>
      if declared then
        recordOutline name none place.description true properties ::
          propertiesBlock name properties
      else []

/-- What is inline in the properties of a record, one property after another. -/
def propertiesBlock (enclosing : Text) : List (Property Fragment) → List Entity
  | [] => []
  | ⟨_, property, _, fragment⟩ :: rest =>
      optionalBlock (Naming.synthesized enclosing property) fragment ++
        propertiesBlock enclosing rest

def optionalBlock (name : Text) : Option Fragment → List Entity
  | none => []
  | some fragment => inlineBlock name fragment

end

/-- The block of a record that a definition declares. -/
def recordDefinitionBlock (name : Text) (base : Option Text) (description : Json)
    (properties : List (Property Fragment)) : List Entity :=
  recordOutline name base description false properties :: propertiesBlock name properties

/-- The block of the property of a name that a message declares, if it declares any. -/
def payloadBlock (name : Text) (message : Definition) (property : Text) : List Entity :=
  optionalBlock name ((declared? message property).bind Property.fragment)

/-- The block of a request: its arguments and the body of its response. -/
def requestBlock (definitions : List Definition) (definition : Definition) : List Entity :=
  payloadBlock (definition.name ++ "Arguments") definition "arguments" ++
    match (Naming.response? definition.name).bind (definition? definitions) with
    | some response => payloadBlock response.name response "body"
    | none => []

/-- The block of a composition, by its base. -/
def compositionBlock (config : Config) (definitions : List Definition)
    (definition : Definition) (place : Place) (base : Option Text) : List Entity :=
  if base = some requestBase then requestBlock definitions definition
  else if base = some eventBase then
    payloadBlock (definition.name ++ "Arguments") definition "body"
  else if (optionHolds config.reservedBaseTypes base).valueOr false then []
  else
    recordDefinitionBlock definition.name base place.description
      (ownProperties (messageObject? definition))

/-- The block of the body of a definition. -/
def bodyBlock (config : Config) (definitions : List Definition) (definition : Definition) :
    List Entity :=
  match definition.body with
  | some (.composition place _ _) =>
      compositionBlock config definitions definition place
        (resolvedBase (followIn config definitions) definition)
  | some (.enumeration values) => [.enumType (enumTypeOf definition.name values false)]
  | some (.object shape) =>
      recordDefinitionBlock definition.name none shape.place.description shape.properties
  | _ => []

/-- The block of a definition, which is empty if the definition is left out. -/
def definitionBlock (config : Config) (definitions : List Definition)
    (definition : Definition) : List Entity :=
  if isKept config definition then bodyBlock config definitions definition else []

theorem propertiesBlock_eq (enclosing : Text) (properties : List (Property Fragment)) :
    propertiesBlock enclosing properties = properties.flatMap fun property =>
      optionalBlock (Naming.synthesized enclosing property.name) property.fragment := by
  induction properties with
  | nil => rw [propertiesBlock, List.flatMap_nil]
  | cons property rest ih => rw [propertiesBlock, List.flatMap_cons, ih]

theorem objectBlock_of_declared {shape : ObjectShape Fragment} (declared : shape.declared = true)
    (name : Text) :
    objectBlock name shape =
      recordOutline name none shape.place.description true shape.properties ::
        propertiesBlock name shape.properties := by
  obtain ⟨place, properties, declares, additional⟩ := shape
  rw [objectBlock, if_pos declared]

theorem bodyBlock_of_composition {config : Config} {definitions : List Definition}
    {definition : Definition} {place : Place} {base extension : Option Fragment}
    {baseName : Option Text}
    (formed : definition.body = some (.composition place base extension))
    (based : (followBase (followIn config definitions) definition.name base).outcome =
      .ok baseName) :
    bodyBlock config definitions definition =
      compositionBlock config definitions definition place baseName := by
  rw [bodyBlock, formed, ← resolvedBase_of_followed formed based]

/-! ## Inference -/

section

variable {follow : Follow} {config : Config} {definitions : List Definition}

/-- A record and the entities of its properties are outlined one after another. -/
theorem outline_recordBlock {name : Text} {base : Option Text} {description : Json}
    {synthesized : Bool} {properties : List (Property Fragment)}
    {inferenceOf : Property Fragment → Inference}
    (each : ∀ property ∈ properties, (inferenceOf property).entities.map Entity.outline =
      optionalBlock (Naming.synthesized name property.name) property.fragment) :
    (recordBlock name base description synthesized properties inferenceOf).map Entity.outline =
      recordOutline name base description synthesized properties ::
        propertiesBlock name properties := by
  rw [recordBlock, List.map_cons, propertiesBlock_eq, List.map_flatMap]
  congr 1
  · simp only [Entity.outline, List.map_map]
    rfl
  · exact List.flatMap_congr each

theorem inlineBlock_of_settled {position : Position} {fragment : Fragment}
    {result : Except Failure TypeDescriptor}
    (settles : settled? position fragment = some result) (name : Text) :
    inlineBlock name fragment = [] := by
  cases fragment with
  | object shape =>
      obtain ⟨place, properties, declared, additional⟩ := shape
      cases declared with
      | true => cases settles
      | false =>
          rw [inlineBlock, objectBlock]
          rfl
  | array place items =>
      cases items with
      | none =>
          rw [inlineBlock]
          · exact nofun
          · exact nofun
          · exact nofun
      | some items => cases settles
  | enumeration values => cases settles
  | primitive place typeName => rfl
  | typeList place types => rfl
  | reference link => rfl
  | composition place base extension => rfl

/-- What is inferred for a fragment is its block, named by the position. -/
theorem Inferred.outline {position : Position} {fragment : Fragment} {inference : Inference}
    (inferred : Inferred follow position fragment inference) :
    inference.entities.map Entity.outline = inlineBlock position.entityName fragment := by
  induction inferred with
  | settled settles => exact (inlineBlock_of_settled settles _).symm
  | reference followed => rfl
  | array inner ih =>
      -- The items stand at the place of the array, and have its name.
      rw [inlineBlock]
      exact ih
  | enumeration => rfl
  | @record position shape inferenceOf declared absent present ih =>
      rw [inlineBlock, objectBlock_of_declared declared]
      apply outline_recordBlock
      intro property member
      cases typed : property.fragment with
      | none =>
          rw [absent property member typed]
          rfl
      | some fragment =>
          rw [ih property member fragment typed, Position.entityName_eq]
          rfl

theorem InferredOptional.outline {position : Position} {fragment : Option Fragment}
    {inference : Inference} (inferred : InferredOptional follow position fragment inference) :
    inference.entities.map Entity.outline = optionalBlock position.entityName fragment := by
  cases fragment with
  | none =>
      cases inferred
      rfl
  | some fragment => exact Inferred.outline inferred

theorem InferredProperties.outline {owner name : Text} {properties : List (Property Fragment)}
    {inferenceOf : Property Fragment → Inference}
    (inferred : InferredProperties follow owner name properties inferenceOf)
    (base : Option Text) (description : Json) :
    (recordBlock name base description false properties inferenceOf).map Entity.outline =
      recordDefinitionBlock name base description properties := by
  apply outline_recordBlock
  intro property member
  rw [(inferred property member).outline, Position.entityName_eq]
  rfl

theorem InferredPayload.outline {owner anchor property : Text}
    {payload : Option (Property Fragment)} {inference : Option Inference}
    (inferred : InferredPayload follow owner anchor property payload inference) :
    (payloadEntities inference).map Entity.outline =
      optionalBlock (Naming.synthesized anchor property) (payload.bind Property.fragment) := by
  cases inferred with
  | absent => rfl
  | present inferred =>
      have outlined := inferred.outline
      rwa [Position.entityName_eq] at outlined

/-! ## Contributions -/

/-- What a definition contributes is its block. -/
theorem Contributed.outline {definition : Definition} {part : Contribution}
    (contributed : Contributed config (followIn config definitions) definitions definition part) :
    part.entities.map Entity.outline = bodyBlock config definitions definition := by
  cases contributed with
  | request formed based inline fixed answered argued returned =>
      have named : Naming.synthesized definition.name "arguments" =
          definition.name ++ "Arguments" := rfl
      rw [bodyBlock_of_composition formed based, compositionBlock, if_pos rfl, requestBlock,
        answered, List.map_append, argued.outline, returned.outline, named, synthesized_empty,
        propertyNamed?_eq_declared? formed inline, responseBody?_eq_declared?]
      rfl
  | event formed based inline fixed carried =>
      rw [bodyBlock_of_composition formed based, compositionBlock, if_neg (by decide), if_pos rfl,
        carried.outline, synthesized_empty, propertyNamed?_eq_declared? formed inline]
      rfl
  | consumed formed based notRequest notEvent reserved =>
      rw [bodyBlock_of_composition formed based, compositionBlock, if_neg notRequest,
        if_neg notEvent, Traced.valueOr_of_ok _ reserved, if_pos rfl]
      rfl
  | extended formed based notRequest notEvent free inline inferred =>
      rw [bodyBlock_of_composition formed based, compositionBlock, if_neg notRequest,
        if_neg notEvent, Traced.valueOr_of_ok _ free, if_neg Bool.false_ne_true,
        messageObject?_of_inline formed inline]
      exact inferred.outline _ _
  | enumeration formed =>
      rw [bodyBlock, formed]
      rfl
  | record formed inferred =>
      rw [bodyBlock, formed]
      exact inferred.outline _ _

/-- Definitions that are left out have empty blocks. -/
theorem flatMap_bodyBlock_kept (listed : List Definition) :
    (kept config listed).flatMap (bodyBlock config definitions) =
      listed.flatMap (definitionBlock config definitions) := by
  rw [kept]
  induction listed with
  | nil => rfl
  | cons definition rest ih =>
      rw [List.filter_cons, List.flatMap_cons, ← ih, definitionBlock]
      split
      · rw [List.flatMap_cons]
      · rw [List.nil_append]

/-- The entities of a model are the blocks of its definitions, one after another: a block lists
a record in front of what is inline in its properties, named by the record and the property. -/
theorem outline_entities_of_analyze {version : Json} {model : Model}
    (analyzed : (analyze config definitions version).outcome = .ok model) :
    model.entities.map Entity.outline =
      definitions.flatMap (definitionBlock config definitions) := by
  obtain ⟨_, contributionOf, each, _, rfl⟩ := analyze_ok_iff.mp analyzed
  rw [assembled, ← flatMap_bodyBlock_kept, List.flatMap_map, List.map_flatMap]
  apply List.flatMap_congr
  exact fun definition held => (each definition held).outline

end

/-- A record with an enumeration and, in an array of arrays, a record with one; a request with
arguments and a response; and an event. -/
def nestedDefinitions : List Definition :=
  let place : Place := ⟨"#/definitions/Task", .null⟩
  let listed (isOpen : Bool) (value : Text) : Fragment :=
    .enumeration ⟨place, [value], [.null], isOpen⟩
  let holding (properties : List (Text × Fragment)) : Fragment :=
    .object ⟨place, properties.map fun (name, type) => ⟨place, name, true, some type⟩, true,
      .unstated⟩
  let message (base : Text) (properties : List (Text × Fragment)) : Fragment :=
    .composition place (some (.reference ⟨place, .text base⟩)) (some (holding properties))
  let logged : Fragment := .array place (some (holding [("level", listed true "low")]))
  [⟨"Task", place, some (holding [("state", listed false "done"),
      ("log", .array place (some logged)), ("title", .primitive place (.text "string"))])⟩,
    ⟨"FindRequest", place, some (message "#/definitions/Request"
      [("command", listed false "find"),
        ("arguments", holding [("mode", listed false "exact")])])⟩,
    ⟨"FindResponse", place, some (message "#/definitions/Response"
      [("body", holding [("hit", listed false "none")])])⟩,
    ⟨"EndedEvent", place, some (message "#/definitions/Event"
      [("event", listed false "ended"), ("body", logged)])⟩,
    ⟨"Request", place, some (holding [])⟩, ⟨"Response", place, some (holding [])⟩,
    ⟨"Event", place, some (holding [])⟩]

theorem outline_entities_nestedDefinitions :
    ∃ model, (analyze {} nestedDefinitions .null).outcome = .ok model ∧
      model.entities.map Entity.name = ["Task", "TaskState", "TaskLog", "TaskLogLevel",
        "FindRequestArguments", "FindRequestArgumentsMode", "FindResponse", "FindResponseHit",
        "EndedEventArguments", "EndedEventArgumentsLevel"] ∧
      model.entities.map Entity.outline =
        nestedDefinitions.flatMap (definitionBlock {} nestedDefinitions) := by
  have names : (analyze {} nestedDefinitions .null).outcome.toOption.map
      (fun model => model.entities.map Entity.name) =
        some (["Task", "TaskState", "TaskLog", "TaskLogLevel", "FindRequestArguments",
          "FindRequestArgumentsMode", "FindResponse", "FindResponseHit", "EndedEventArguments",
          "EndedEventArgumentsLevel"] : List Text) := by
    decide +kernel
  obtain ⟨model, ended, named⟩ := Traced.exists_ok_of_map names
  exact ⟨model, ended, named, outline_entities_of_analyze ended⟩

end Resolve

end ProtocolBindings
