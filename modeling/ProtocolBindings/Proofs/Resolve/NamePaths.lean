import ProtocolBindings.Proofs.Resolve.Partition
import ProtocolBindings.Proofs.Resolve.RequestPairs

/-!
# Paths of names

The name of a synthesized entity is that of a message, followed by the names of the
properties on the way to it.  The names of a model are exactly those along the paths that
lead to the declared entities and to the inline ones in its definitions.
-/

namespace ProtocolBindings

/-- The name of what stands at the end of a path of properties. -/
def Naming.along (root : Text) (path : List Text) : Text :=
  path.foldl Naming.synthesized root

namespace Resolve

open Model
open Schema (Definition Fragment ObjectShape Place Property definition?)
open Reference (Follow)

/-- A path of properties leads to an inline enumeration or record inside a fragment.  The
items of an array stand at the place of the array. -/
inductive InlineAt : Fragment → List Text → Prop where
  | enumeration {values : Schema.Enumeration} : InlineAt (.enumeration values) []
  | record {shape : ObjectShape Fragment} (declared : shape.declared = true) :
      InlineAt (.object shape) []
  | items {place : Place} {items : Fragment} {path : List Text} (inner : InlineAt items path) :
      InlineAt (.array place (some items)) path
  | property {shape : ObjectShape Fragment} {property : Property Fragment}
      {fragment : Fragment} {path : List Text} (declared : shape.declared = true)
      (member : property ∈ shape.properties) (typed : property.fragment = some fragment)
      (inner : InlineAt fragment path) : InlineAt (.object shape) (property.name :: path)

/-- A path leads to something inline in the type of a property. -/
def PropertyInlineAt (property : Property Fragment) (path : List Text) : Prop :=
  ∃ fragment, property.fragment = some fragment ∧ InlineAt fragment path

/-- A definition has an entity of its own, unless its base calls for something else. -/
structure IsDeclared (config : Config) (follow : Follow) (definition : Definition) : Prop where
  notRequest : resolvedBase follow definition ≠ some requestBase
  notEvent : resolvedBase follow definition ≠ some eventBase
  free : ∀ place base extension, definition.body = some (.composition place base extension) →
    (optionHolds config.reservedBaseTypes (resolvedBase follow definition)).outcome = .ok false

/-- A path leads from the name of a message to an entity for which a definition provides:
the declared one, those inside its properties, and those inside the payloads of a request
or an event. -/
inductive EntityAt (config : Config) (follow : Follow) (definitions : List Definition)
    (definition : Definition) : Text → List Text → Prop where
  | declared (own : IsDeclared config follow definition) :
      EntityAt config follow definitions definition definition.name []
  | property {property : Property Fragment} {path : List Text}
      (own : IsDeclared config follow definition)
      (member : property ∈ ownProperties (messageObject? definition))
      (inner : PropertyInlineAt property path) :
      EntityAt config follow definitions definition definition.name (property.name :: path)
  | arguments {payload : Property Fragment} {path : List Text}
      (request : resolvedBase follow definition = some requestBase)
      (declares : declared? definition "arguments" = some payload)
      (inner : PropertyInlineAt payload path) :
      EntityAt config follow definitions definition definition.name ("arguments" :: path)
  | result {response : Definition} {payload : Property Fragment} {path : List Text}
      (request : resolvedBase follow definition = some requestBase)
      (answered :
        (Naming.response? definition.name).bind (definition? definitions) = some response)
      (declares : declared? response "body" = some payload)
      (inner : PropertyInlineAt payload path) :
      EntityAt config follow definitions definition response.name path
  | body {payload : Property Fragment} {path : List Text}
      (event : resolvedBase follow definition = some eventBase)
      (declares : declared? definition "body" = some payload)
      (inner : PropertyInlineAt payload path) :
      EntityAt config follow definitions definition (definition.name ++ "Arguments") path

/-! ## Inference -/

/-- A property without a name adds nothing to the name of its entity. -/
theorem Position.entityName_eq (position : Position) :
    position.entityName = Naming.synthesized position.anchor position.property := by
  unfold entityName
  split
  · rename_i bare
    rw [List.isEmpty_iff.mp bare, Naming.synthesized, Naming.capitalize, List.append_nil]
  · rfl

theorem synthesized_empty (root : Text) : Naming.synthesized root "" = root :=
  List.append_nil root

/-- The names of some entities are those along the paths that satisfy a condition. -/
def NamedAlong (entities : List Entity) (root : Text) (leads : List Text → Prop) : Prop :=
  ∀ name, name ∈ entities.map Entity.name ↔ ∃ path, leads path ∧ name = Naming.along root path

theorem namedAlong_nil {root : Text} {leads : List Text → Prop} (nowhere : ∀ path, ¬ leads path) :
    NamedAlong [] root leads := by
  intro name
  simp [nowhere]

section

variable {follow : Follow}

theorem NamedAlong.congr {entities : List Entity} {root : Text} {leads same : List Text → Prop}
    (named : NamedAlong entities root leads) (agree : ∀ path, leads path ↔ same path) :
    NamedAlong entities root same := by
  intro name
  simp only [named name, agree]

/-- A path leads to something inline through one of some properties. -/
def ThroughProperty (properties : List (Property Fragment)) (path : List Text) : Prop :=
  ∃ property ∈ properties, ∃ rest, path = property.name :: rest ∧ PropertyInlineAt property rest

/-- The names of a record and of what is below it: those below continue that of the record
by those of its properties. -/
theorem namedAlong_recordBlock {root : Text} {base : Option Text} {description : Json}
    {synthesized : Bool} {properties : List (Property Fragment)}
    {inferenceOf : Property Fragment → Inference}
    (each : ∀ property ∈ properties, NamedAlong (inferenceOf property).entities
      (Naming.synthesized root property.name) (PropertyInlineAt property)) :
    NamedAlong (recordBlock root base description synthesized properties inferenceOf) root
      fun path => path = [] ∨ ThroughProperty properties path := by
  intro name
  rw [recordBlock, List.map_cons, List.mem_cons, List.map_flatMap, List.mem_flatMap]
  constructor
  · rintro (rfl | ⟨property, member, named⟩)
    · exact ⟨[], .inl rfl, rfl⟩
    · obtain ⟨rest, inner, same⟩ := (each property member name).mp named
      exact ⟨property.name :: rest, .inr ⟨property, member, rest, rfl, inner⟩, same⟩
  · rintro ⟨_, rfl | ⟨property, member, rest, rfl, inner⟩, same⟩
    · exact .inl same
    · exact .inr ⟨property, member, (each property member name).mpr ⟨rest, inner, same⟩⟩

theorem inlineAt_object_iff {shape : ObjectShape Fragment} (declared : shape.declared = true)
    {path : List Text} :
    InlineAt (.object shape) path ↔ path = [] ∨ ThroughProperty shape.properties path := by
  constructor
  · intro inner
    cases inner with
    | record declared => exact .inl rfl
    | property declared member typed inner =>
        exact .inr ⟨_, member, _, rfl, _, typed, inner⟩
  · rintro (rfl | ⟨property, member, rest, rfl, fragment, typed, inner⟩)
    · exact .record declared
    · exact .property declared member typed inner

theorem not_propertyInlineAt {property : Property Fragment} (missing : property.fragment = none)
    (path : List Text) : ¬ PropertyInlineAt property path := by
  simp [PropertyInlineAt, missing]

theorem propertyInlineAt_iff {property : Property Fragment} {fragment : Fragment}
    (typed : property.fragment = some fragment) {path : List Text} :
    PropertyInlineAt property path ↔ InlineAt fragment path := by
  simp [PropertyInlineAt, typed]

theorem not_inlineAt_of_settled {position : Position} {fragment : Fragment}
    {result : Except Failure TypeDescriptor}
    (settles : settled? position fragment = some result) (path : List Text) :
    ¬ InlineAt fragment path := by
  intro inner
  cases inner with
  | enumeration => cases settles
  | record declared => simp [settled?, declared] at settles
  | items inner => cases settles
  | property declared member typed inner => simp [settled?, declared] at settles

/-- The entities of an inference are named along the paths inside its fragment. -/
theorem Inferred.namedAlong {position : Position} {fragment : Fragment} {inference : Inference}
    (inferred : Inferred follow position fragment inference) :
    NamedAlong inference.entities position.entityName (InlineAt fragment) := by
  induction inferred with
  | settled settles => exact namedAlong_nil (not_inlineAt_of_settled settles)
  | reference followed => exact namedAlong_nil nofun
  | array inner ih =>
      -- The items are named after the place of the array, so their paths are its own.
      intro name
      rw [ih name]
      refine exists_congr fun path => and_congr_left fun _ => ⟨.items, ?_⟩
      rintro ⟨⟩
      assumption
  | enumeration =>
      intro name
      rw [ofEnumeration, List.map_singleton, List.mem_singleton]
      constructor
      · rintro rfl
        exact ⟨[], .enumeration, rfl⟩
      · rintro ⟨_, ⟨⟩, same⟩
        exact same
  | @record position shape inferenceOf declared absent present ih =>
      refine NamedAlong.congr (namedAlong_recordBlock fun property member => ?_)
        fun path => (inlineAt_object_iff declared).symm
      cases typed : property.fragment with
      | none =>
          rw [absent property member typed]
          exact namedAlong_nil (not_propertyInlineAt typed)
      | some fragment =>
          have named := ih property member fragment typed
          rw [Position.entityName_eq] at named
          exact named.congr fun path => (propertyInlineAt_iff typed).symm

theorem InferredOptional.namedAlong {property : Property Fragment} {position : Position}
    {inference : Inference}
    (inferred : InferredOptional follow position property.fragment inference) :
    NamedAlong inference.entities position.entityName (PropertyInlineAt property) := by
  cases typed : property.fragment with
  | none =>
      rw [typed] at inferred
      cases inferred
      exact namedAlong_nil (not_propertyInlineAt typed)
  | some fragment =>
      rw [typed] at inferred
      exact (Inferred.namedAlong inferred).congr fun path => (propertyInlineAt_iff typed).symm

theorem InferredProperties.namedAlong {owner root : Text} {properties : List (Property Fragment)}
    {inferenceOf : Property Fragment → Inference}
    (inferred : InferredProperties follow owner root properties inferenceOf) :
    ∀ property ∈ properties, NamedAlong (inferenceOf property).entities
      (Naming.synthesized root property.name) (PropertyInlineAt property) := by
  intro property member
  have named := (inferred property member).namedAlong
  rwa [Position.entityName_eq] at named

theorem InferredPayload.namedAlong {owner anchor property : Text}
    {payload : Option (Property Fragment)} {inference : Option Inference}
    (inferred : InferredPayload follow owner anchor property payload inference) :
    NamedAlong (payloadEntities inference) (Naming.synthesized anchor property)
      fun path => ∃ held, payload = some held ∧ PropertyInlineAt held path := by
  cases inferred with
  | absent => exact namedAlong_nil (by simp)
  | @present payload inner inferred =>
      have named := inferred.namedAlong
      rw [Position.entityName_eq] at named
      exact named.congr fun path => by simp

end

/-! ## Contributions -/

section

variable {config : Config} {follow : Follow} {definitions : List Definition}
variable {definition : Definition} {part : Contribution}

theorem messageObject?_of_inline {place : Place} {base extension : Option Fragment}
    {shape : Option (ObjectShape Fragment)}
    (formed : definition.body = some (.composition place base extension))
    (inline : (inlineObject extension).outcome = .ok shape) :
    messageObject? definition = shape := by
  cases extension with
  | none =>
      cases inline
      rw [messageObject?, formed]
  | some fragment =>
      cases fragment with
      | object own =>
          cases inline
          rw [messageObject?, formed]
      | primitive _ _ | enumeration _ | typeList _ _ | reference _ | array _ _
      | composition _ _ _ => cases inline

theorem IsDeclared.of_base (base : resolvedBase follow definition = none)
    (simple : ∀ place base extension, definition.body ≠ some (.composition place base extension)) :
    IsDeclared config follow definition where
  notRequest := by simp [base]
  notEvent := by simp [base]
  free place base extension formed := absurd formed (simple place base extension)

theorem exists_entityAt_of_declared (own : IsDeclared config follow definition) {name : Text} :
    (∃ root path, EntityAt config follow definitions definition root path ∧
      name = Naming.along root path) ↔
    ∃ path, (path = [] ∨ ThroughProperty (ownProperties (messageObject? definition)) path) ∧
      name = Naming.along definition.name path := by
  constructor
  · rintro ⟨root, path, leads, rfl⟩
    cases leads with
    | declared own => exact ⟨[], .inl rfl, rfl⟩
    | property own member inner => exact ⟨_, .inr ⟨_, member, _, rfl, inner⟩, rfl⟩
    | arguments request => exact absurd request own.notRequest
    | result request => exact absurd request own.notRequest
    | body event => exact absurd event own.notEvent
  · rintro ⟨_, rfl | ⟨property, member, rest, rfl, inner⟩, same⟩
    · exact ⟨_, _, .declared own, same⟩
    · exact ⟨_, _, .property own member inner, same⟩

theorem exists_entityAt_of_request {response : Definition}
    (request : resolvedBase follow definition = some requestBase)
    (answered :
      (Naming.response? definition.name).bind (definition? definitions) = some response)
    {name : Text} :
    (∃ root path, EntityAt config follow definitions definition root path ∧
      name = Naming.along root path) ↔
    (∃ path, (∃ payload, declared? definition "arguments" = some payload ∧
        PropertyInlineAt payload path) ∧
      name = Naming.along (Naming.synthesized definition.name "arguments") path) ∨
    ∃ path, (∃ payload, declared? response "body" = some payload ∧
        PropertyInlineAt payload path) ∧
      name = Naming.along response.name path := by
  constructor
  · rintro ⟨root, path, leads, rfl⟩
    cases leads with
    | declared own => exact absurd request own.notRequest
    | property own => exact absurd request own.notRequest
    | arguments request declares inner => exact .inl ⟨_, ⟨_, declares, inner⟩, rfl⟩
    | result request other declares inner =>
        cases answered.symm.trans other
        exact .inr ⟨_, ⟨_, declares, inner⟩, rfl⟩
    | body event => cases request.symm.trans event
  · rintro (⟨path, ⟨payload, declares, inner⟩, same⟩ | ⟨path, ⟨payload, declares, inner⟩, same⟩)
    · exact ⟨_, _, .arguments request declares inner, same⟩
    · exact ⟨_, _, .result request answered declares inner, same⟩

theorem exists_entityAt_of_event (event : resolvedBase follow definition = some eventBase)
    {name : Text} :
    (∃ root path, EntityAt config follow definitions definition root path ∧
      name = Naming.along root path) ↔
    ∃ path, (∃ payload, declared? definition "body" = some payload ∧
        PropertyInlineAt payload path) ∧
      name = Naming.along (definition.name ++ "Arguments") path := by
  constructor
  · rintro ⟨root, path, leads, rfl⟩
    cases leads with
    | declared own => exact absurd event own.notEvent
    | property own => exact absurd event own.notEvent
    | arguments request => cases request.symm.trans event
    | result request => cases request.symm.trans event
    | body event declares inner => exact ⟨_, ⟨_, declares, inner⟩, rfl⟩
  · rintro ⟨path, ⟨payload, declares, inner⟩, same⟩
    exact ⟨_, _, .body event declares inner, same⟩

/-- A definition contributes entities of exactly the names to which its paths lead. -/
theorem Contributed.mem_entityNames_iff
    (contributed : Contributed config follow definitions definition part) {name : Text} :
    name ∈ part.entityNames ↔ ∃ root path,
      EntityAt config follow definitions definition root path ∧ name = Naming.along root path := by
  rw [Contribution.entityNames]
  cases contributed with
  | @request place base extension shape command response arguments body formed based inline
      fixed answered argued returned =>
      rw [exists_entityAt_of_request (resolvedBase_of_followed formed based) answered,
        List.map_append, List.mem_append, argued.namedAlong name, returned.namedAlong name,
        propertyNamed?_eq_declared? formed inline, responseBody?_eq_declared?, synthesized_empty]
  | event formed based inline fixed carried =>
      rw [exists_entityAt_of_event (resolvedBase_of_followed formed based),
        carried.namedAlong name, propertyNamed?_eq_declared? formed inline, synthesized_empty]
  | consumed formed based notRequest notEvent reserved =>
      -- A consumed definition has no entities, so it must have no paths either.
      have resolves := resolvedBase_of_followed formed based
      refine iff_of_false List.not_mem_nil ?_
      rintro ⟨root, path, leads, _⟩
      have free (own : IsDeclared config follow definition) : False := by
        have held := own.free _ _ _ formed
        rw [resolves, reserved] at held
        cases held
      cases leads with
      | declared own => exact free own
      | property own => exact free own
      | arguments request => exact notRequest (resolves.symm.trans request)
      | result request => exact notRequest (resolves.symm.trans request)
      | body event => exact notEvent (resolves.symm.trans event)
  | extended formed based notRequest notEvent free inline inferred =>
      have resolves := resolvedBase_of_followed formed based
      have own : IsDeclared config follow definition := by
        refine ⟨resolves ▸ notRequest, resolves ▸ notEvent, fun _ _ _ _ => ?_⟩
        rw [resolves]
        exact free
      rw [exists_entityAt_of_declared own, messageObject?_of_inline formed inline]
      exact namedAlong_recordBlock inferred.namedAlong name
  | enumeration formed =>
      have own : IsDeclared config follow definition :=
        .of_base (by rw [resolvedBase, formed]) (by simp [formed])
      rw [exists_entityAt_of_declared own, messageObject?, formed]
      simp [ThroughProperty, ownProperties, Entity.name, enumTypeOf, Naming.along]
  | record formed inferred =>
      have own : IsDeclared config follow definition :=
        .of_base (by rw [resolvedBase, formed]) (by simp [formed])
      rw [exists_entityAt_of_declared own, messageObject?, formed]
      exact namedAlong_recordBlock inferred.namedAlong name

/-- A path leads from the name of a message to an entity of some definitions. -/
def HasEntityAt (config : Config) (definitions : List Definition) (root : Text)
    (path : List Text) : Prop :=
  ∃ definition ∈ kept config definitions,
    EntityAt config (followIn config definitions) definitions definition root path

/-- The paths start at the name of a definition, or at that of the body of an event. -/
theorem HasEntityAt.exists_root {root : Text} {path : List Text}
    (leads : HasEntityAt config definitions root path) :
    ∃ definition ∈ definitions,
      root = definition.name ∨ root = definition.name ++ "Arguments" := by
  obtain ⟨definition, held, leads⟩ := leads
  have member := List.mem_of_mem_filter held
  cases leads with
  | declared own => exact ⟨definition, member, .inl rfl⟩
  | property own => exact ⟨definition, member, .inl rfl⟩
  | arguments request => exact ⟨definition, member, .inl rfl⟩
  | @result response payload path request answered =>
      obtain ⟨_, _, found⟩ := Option.bind_eq_some_iff.mp answered
      exact ⟨response, List.mem_of_find?_eq_some found, .inl rfl⟩
  | body event => exact ⟨definition, member, .inr rfl⟩

/-- The entities of a model have exactly the names to which the paths of its definitions
lead. -/
theorem mem_entityNames_of_analyze {version : Json} {model : Model}
    (analyzed : (analyze config definitions version).outcome = .ok model) (name : Text) :
    name ∈ model.entities.map Entity.name ↔
      ∃ root path, HasEntityAt config definitions root path ∧ name = Naming.along root path := by
  obtain ⟨_, contributionOf, each, _, rfl⟩ := analyze_ok_iff.mp analyzed
  have names : (assembled version ((kept config definitions).map contributionOf)).entities.map
      Entity.name = (kept config definitions).flatMap fun definition =>
        (contributionOf definition).entityNames := by
    simp [assembled, List.flatMap_map, List.map_flatMap, Contribution.entityNames]
  rw [names, List.mem_flatMap]
  constructor
  · rintro ⟨definition, held, named⟩
    obtain ⟨root, path, leads, same⟩ := (each definition held).mem_entityNames_iff.mp named
    exact ⟨root, path, ⟨definition, held, leads⟩, same⟩
  · rintro ⟨root, path, ⟨definition, held, leads⟩, same⟩
    exact ⟨definition, held, (each definition held).mem_entityNames_iff.mpr
      ⟨root, path, leads, same⟩⟩

end

end Resolve

end ProtocolBindings
