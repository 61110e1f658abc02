import Mathlib.Data.List.Forall2
import ProtocolBindings.Proofs.Resolve.ModelTypes
import ProtocolBindings.Proofs.Resolve.Options

/-!
# The roles of definitions

A definition that is neither ignored nor reserved has one role in the model, which its
shape and its base decide: it becomes a request, an event or an entity, or it is
consumed.  The requests, the events and the declared entities of a model are those of
the definitions of that role, one for one and in order.
-/

namespace ProtocolBindings.Resolve

open Model
open Schema (Definition Enumeration Fragment ObjectShape Place Property)
open Reference (Follow)

/-- What becomes of a definition. -/
inductive Role where
  | request
  | event
  | entity
  /-- Nothing, since its base is one of the other reserved ones. -/
  | consumed
deriving DecidableEq, Repr

/-- The base of a definition, which only a composition has. -/
def resolvedBase (follow : Follow) (definition : Definition) : Option Text :=
  match definition.body with
  | some (.composition _ base _) => (followBase follow definition.name base).valueOr none
  | _ => none

/-- The role that a base calls for, given the reserved names. -/
def roleFor (reserved : List Text) : (base : Option Text) → Role
  | none => .entity
  | some base =>
      if base = requestBase then .request
      else if base = eventBase then .event
      else if base ∈ reserved then .consumed
      else .entity

/-- The role of a definition, given the reserved names. -/
def roleOf (reserved : List Text) (follow : Follow) (definition : Definition) : Role :=
  roleFor reserved (resolvedBase follow definition)

/-- The definitions whose names are neither ignored nor reserved. -/
def unlisted (ignored reserved : List Text) (definitions : List Definition) :
    List Definition :=
  definitions.filter fun definition => definition.name ∉ ignored ∧ definition.name ∉ reserved

def inRole (role : Role) (reserved : List Text) (follow : Follow)
    (definitions : List Definition) : List Definition :=
  definitions.filter fun definition => roleOf reserved follow definition = role

def declaredEntities (entities : List Entity) : List Entity :=
  entities.filter fun entity => !entity.synthesized

/-- A record declared by a definition: it has the resolved base, and one property for
each declared one, with its name, its requirement and its description. -/
structure DeclaresRecord (follow : Follow) (definition : Definition)
    (declared : List (Property Fragment)) (content : Record) : Prop where
  name : content.name = definition.name
  base : content.base = resolvedBase follow definition
  properties : List.Forall₂ (fun property resolved =>
    ∃ inference, InferredOptional follow
      (propertyPosition definition.name definition.name property) property.fragment inference ∧
      resolved = resolvedProperty property inference) declared content.properties
  declared : content.synthesized = false

/-- What a definition in the role of an entity declares. -/
inductive Declares (follow : Follow) (definition : Definition) : Entity → Prop where
  | enumeration {values : Enumeration}
      (formed : definition.body = some (.enumeration values)) :
      Declares follow definition (.enumType (enumTypeOf definition.name values false))
  | object {shape : ObjectShape Fragment} {content : Record}
      (formed : definition.body = some (.object shape))
      (declares : DeclaresRecord follow definition shape.properties content)
      (described : content.description = shape.place.description) :
      Declares follow definition (.record content)
  | composition {place : Place} {base extension : Option Fragment}
      {shape : Option (ObjectShape Fragment)} {content : Record}
      (formed : definition.body = some (.composition place base extension))
      (inline : (inlineObject extension).outcome = .ok shape)
      (declares : DeclaresRecord follow definition (ownProperties shape) content)
      (described : content.description = place.description) :
      Declares follow definition (.record content)

theorem Declares.name {follow : Follow} {definition : Definition} {entity : Entity}
    (declares : Declares follow definition entity) : entity.name = definition.name := by
  cases declares with
  | enumeration formed => rfl
  | object formed declares described => exact declares.name
  | composition formed inline declares described => exact declares.name

section

variable {follow : Follow} {definition : Definition} {reserved : List Text}

/-! ## Roles -/

theorem resolvedBase_of_followed {place : Place} {base extension : Option Fragment}
    {baseName : Option Text}
    (formed : definition.body = some (.composition place base extension))
    (based : (followBase follow definition.name base).outcome = .ok baseName) :
    resolvedBase follow definition = baseName := by
  rw [resolvedBase, formed]
  exact Traced.valueOr_of_ok none based

theorem roleFor_some_eq_entity_iff {base : Text} :
    roleFor reserved (some base) = .entity ↔
      base ≠ requestBase ∧ base ≠ eventBase ∧ base ∉ reserved := by
  by_cases request : base = requestBase
  · simp [roleFor, request]
  · by_cases event : base = eventBase
    · rw [roleFor, if_neg request, if_pos event]
      simp [event]
    · simp [roleFor, request, event]

/-- The entities that come with a declared one are left out. -/
theorem declaredEntities_of_inline {entities : List Entity}
    (inline : ∀ entity ∈ entities, IsInline entity) : declaredEntities entities = [] := by
  rw [declaredEntities, List.filter_eq_nil_iff]
  intro entity member
  simp [(inline entity member).synthesized]

theorem declaredEntities_recordBlock {name : Text} {base : Option Text} {description : Json}
    {properties : List (Property Fragment)} {inferenceOf : Property Fragment → Inference}
    (inferred : InferredProperties follow name name properties inferenceOf) :
    declaredEntities (recordBlock name base description false properties inferenceOf) =
      [.record {
        name := name
        base := base
        properties := properties.map fun property =>
          resolvedProperty property (inferenceOf property)
        description := description
        synthesized := false }] := by
  have rest := declaredEntities_of_inline inferred.inline
  rw [declaredEntities] at rest
  rw [declaredEntities, recordBlock, List.filter_cons_of_pos rfl, rest]

theorem resolvedProperties_of_inferred {properties : List (Property Fragment)}
    {inferenceOf : Property Fragment → Inference}
    (inferred : InferredProperties follow definition.name definition.name properties
      inferenceOf) :
    List.Forall₂ (fun property resolved =>
      ∃ inference, InferredOptional follow
        (propertyPosition definition.name definition.name property) property.fragment inference ∧
        resolved = resolvedProperty property inference)
      properties (properties.map fun property =>
        resolvedProperty property (inferenceOf property)) := by
  rw [List.forall₂_map_right_iff, List.forall₂_same]
  intro property member
  exact ⟨inferenceOf property, inferred property member, rfl⟩

/-- What a definition of a role contributes. -/
structure Played (follow : Follow) (role : Role) (definition : Definition)
    (part : Contribution) : Prop where
  requests : part.requests.map Request.request =
    if role = .request then [definition.name] else []
  events : part.events.map Event.name = if role = .event then [definition.name] else []
  declared : List.Forall₂ (Declares follow) (if role = .entity then [definition] else [])
    (declaredEntities part.entities)
  consumed : role = .consumed → part = {}

/-- A definition contributes what its role calls for. -/
theorem Contributed.played {config : Config} {ignored : List Text}
    {definitions : List Definition} {part : Contribution}
    (listed : config.ListsNames ignored reserved)
    (contributed : Contributed config follow definitions definition part) :
    Played follow (roleOf reserved follow definition) definition part := by
  cases contributed with
  | request formed based inline fixed answered argued returned =>
      have role : roleOf reserved follow definition = .request := by
        rw [roleOf, resolvedBase_of_followed formed based]
        rfl
      have inner := declaredEntities_of_inline fun entity member =>
        (List.mem_append.mp member).elim (argued.inline entity) (returned.inline entity)
      rw [role]
      exact ⟨rfl, rfl, inner ▸ .nil, nofun⟩
  | event formed based inline fixed carried =>
      have role : roleOf reserved follow definition = .event := by
        rw [roleOf, resolvedBase_of_followed formed based]
        rfl
      have inner := declaredEntities_of_inline carried.inline
      rw [role]
      exact ⟨rfl, rfl, inner ▸ .nil, nofun⟩
  | @consumed place base extension baseName formed based notRequest notEvent held =>
      have role : roleOf reserved follow definition = .consumed := by
        rw [roleOf, resolvedBase_of_followed formed based]
        cases baseName with
        | none =>
            rw [optionHolds_none listed.reserved] at held
            cases held
        | some target =>
            rw [optionHolds_some listed.reserved] at held
            have known : target ∈ reserved := of_decide_eq_true (Except.ok.inj held)
            rw [Ne, Option.some.injEq] at notRequest notEvent
            simp [roleFor, notRequest, notEvent, known]
      rw [role]
      exact ⟨rfl, rfl, .nil, fun _ => rfl⟩
  | @extended place base extension baseName shape inferenceOf formed based notRequest notEvent
      free inline inferred =>
      have resolves := resolvedBase_of_followed formed based
      have role : roleOf reserved follow definition = .entity := by
        rw [roleOf, resolves]
        cases baseName with
        | none => rfl
        | some target =>
            rw [optionHolds_some listed.reserved] at free
            rw [Ne, Option.some.injEq] at notRequest notEvent
            exact roleFor_some_eq_entity_iff.mpr
              ⟨notRequest, notEvent, of_decide_eq_false (Except.ok.inj free)⟩
      rw [role]
      refine ⟨rfl, rfl, ?_, nofun⟩
      rw [declaredEntities_recordBlock inferred]
      exact .cons (.composition formed inline
        ⟨rfl, resolves.symm, resolvedProperties_of_inferred inferred, rfl⟩ rfl) .nil
  | enumeration formed =>
      have role : roleOf reserved follow definition = .entity := by
        rw [roleOf, resolvedBase, formed]
        rfl
      rw [role]
      exact ⟨rfl, rfl, .cons (.enumeration formed) .nil, nofun⟩
  | record formed inferred =>
      have resolves : resolvedBase follow definition = none := by rw [resolvedBase, formed]
      have role : roleOf reserved follow definition = .entity := by
        rw [roleOf, resolves]
        rfl
      rw [role]
      refine ⟨rfl, rfl, ?_, nofun⟩
      rw [declaredEntities_recordBlock inferred]
      exact .cons (.object formed
        ⟨rfl, resolves.symm, resolvedProperties_of_inferred inferred, rfl⟩ rfl) .nil

end

/-! ## Models -/

section

variable {reserved : List Text} {follow : Follow} {definitions : List Definition}
variable {contributionOf : Definition → Contribution}

theorem inRole_cons (role : Role) (definition : Definition) :
    inRole role reserved follow (definition :: definitions) =
      (if roleOf reserved follow definition = role then [definition] else []) ++
        inRole role reserved follow definitions := by
  rw [inRole, inRole, List.filter_cons]
  split <;> simp_all

variable (each : ∀ definition ∈ definitions,
  Played follow (roleOf reserved follow definition) definition (contributionOf definition))

include each

theorem requests_of_played :
    ((definitions.map contributionOf).flatMap Contribution.requests).map Request.request =
      (inRole .request reserved follow definitions).map Definition.name := by
  induction definitions with
  | nil => rfl
  | cons definition rest ih =>
      obtain ⟨first, later⟩ := List.forall_mem_cons.mp each
      rw [List.map_cons, List.flatMap_cons, List.map_append, first.requests, ih later,
        inRole_cons, List.map_append]
      split <;> rfl

theorem events_of_played :
    ((definitions.map contributionOf).flatMap Contribution.events).map Event.name =
      (inRole .event reserved follow definitions).map Definition.name := by
  induction definitions with
  | nil => rfl
  | cons definition rest ih =>
      obtain ⟨first, later⟩ := List.forall_mem_cons.mp each
      rw [List.map_cons, List.flatMap_cons, List.map_append, first.events, ih later,
        inRole_cons, List.map_append]
      split <;> rfl

theorem declared_of_played :
    List.Forall₂ (Declares follow) (inRole .entity reserved follow definitions)
      (declaredEntities ((definitions.map contributionOf).flatMap Contribution.entities)) := by
  induction definitions with
  | nil => exact .nil
  | cons definition rest ih =>
      obtain ⟨first, later⟩ := List.forall_mem_cons.mp each
      rw [List.map_cons, List.flatMap_cons, declaredEntities, List.filter_append, inRole_cons]
      exact List.rel_append first.declared (ih later)

end

/-- The definitions of a schema are divided among the lists of its model. -/
structure Partitioned (config : Config) (ignored reserved : List Text)
    (definitions : List Definition) (model : Model) : Prop where
  /-- The base of every composition is resolved. -/
  based : ∀ definition ∈ unlisted ignored reserved definitions, ∀ place base extension,
    definition.body = some (.composition place base extension) →
    (followBase (followIn config definitions) definition.name base).outcome =
      .ok (resolvedBase (followIn config definitions) definition)
  requests : model.requests.map Request.request =
    (inRole .request reserved (followIn config definitions)
      (unlisted ignored reserved definitions)).map Definition.name
  events : model.events.map Event.name =
    (inRole .event reserved (followIn config definitions)
      (unlisted ignored reserved definitions)).map Definition.name
  entities : List.Forall₂ (Declares (followIn config definitions))
    (inRole .entity reserved (followIn config definitions)
      (unlisted ignored reserved definitions))
    (declaredEntities model.entities)
  /-- The model holds nothing but contributions, and consumed definitions have none. -/
  consumed : ∃ contributionOf : Definition → Contribution,
    model = assembled model.version
      ((unlisted ignored reserved definitions).map contributionOf) ∧
    (∀ definition ∈ unlisted ignored reserved definitions,
      (contribution config (followIn config definitions) definitions definition).outcome =
        .ok (contributionOf definition)) ∧
    ∀ definition ∈ inRole .consumed reserved (followIn config definitions)
      (unlisted ignored reserved definitions), contributionOf definition = {}
  names : ∀ entity ∈ declaredEntities model.entities,
    entity.name ∉ ignored ∧ entity.name ∉ reserved
  bases : ∀ content ∈ model.records, ∀ base, content.base = some base →
    base ≠ requestBase ∧ base ≠ eventBase ∧ base ∉ reserved

section

variable {config : Config} {ignored reserved : List Text} {definitions : List Definition}

theorem kept_eq_unlisted (listed : config.ListsNames ignored reserved) :
    kept config definitions = unlisted ignored reserved definitions := by
  apply List.filter_congr
  intro definition _
  simp [isKept, isSkipped_of_listsNames listed]

/-- A composition that contributes has a resolved base. -/
theorem Contributed.based {follow : Follow} {definition : Definition} {part : Contribution}
    (contributed : Contributed config follow definitions definition part) {place : Place}
    {base extension : Option Fragment}
    (shape : definition.body = some (.composition place base extension)) :
    (followBase follow definition.name base).outcome =
      .ok (resolvedBase follow definition) := by
  have same : ∀ {otherPlace : Place} {other otherExtension : Option Fragment}
      {baseName : Option Text},
      definition.body = some (.composition otherPlace other otherExtension) →
      (followBase follow definition.name other).outcome = .ok baseName →
      (followBase follow definition.name base).outcome =
        .ok (resolvedBase follow definition) := by
    intro otherPlace other otherExtension baseName formed based
    rw [resolvedBase_of_followed formed based]
    rw [shape] at formed
    cases formed
    exact based
  cases contributed with
  | request formed based => exact same formed based
  | event formed based => exact same formed based
  | consumed formed based => exact same formed based
  | extended formed based => exact same formed based
  | enumeration formed => cases shape.symm.trans formed
  | record formed => cases shape.symm.trans formed

/-- The synthesized entities of a contribution are inline. -/
theorem Contributed.inline {follow : Follow} {definition : Definition} {part : Contribution}
    (contributed : Contributed config follow definitions definition part) :
    ∀ entity ∈ part.entities, entity.synthesized = true → IsInline entity := by
  intro entity member synthesized
  cases contributed with
  | request formed based inline fixed answered argued returned =>
      rcases List.mem_append.mp member with inside | inside
      · exact argued.inline entity inside
      · exact returned.inline entity inside
  | event formed based inline fixed carried => exact carried.inline entity member
  | consumed => cases member
  | extended formed based notRequest notEvent free inline inferred =>
      rcases List.mem_cons.mp member with rfl | inside
      · cases synthesized
      · exact inferred.inline entity inside
  | enumeration formed =>
      rw [List.mem_singleton.mp member] at synthesized
      cases synthesized
  | record formed inferred =>
      rcases List.mem_cons.mp member with rfl | inside
      · cases synthesized
      · exact inferred.inline entity inside

/-- A declared entity of a model is what some definition in the role of one declares. -/
theorem exists_declares {follow : Follow} {unlisted : List Definition} {entities : List Entity}
    (declared : List.Forall₂ (Declares follow) (inRole .entity reserved follow unlisted)
      (declaredEntities entities)) :
    ∀ entity ∈ declaredEntities entities, ∃ definition ∈ unlisted,
      roleOf reserved follow definition = .entity ∧ Declares follow definition entity := by
  intro entity member
  obtain ⟨position, bound, rfl⟩ := List.getElem_of_mem member
  have sameLength := declared.length_eq
  have paired := declared.get (sameLength ▸ bound) bound
  have among := List.getElem_mem (sameLength ▸ bound)
  obtain ⟨held, role⟩ := List.mem_filter.mp among
  exact ⟨_, held, of_decide_eq_true role, paired⟩

/-- A declared record has no base that calls for another role. -/
theorem Declares.base_free {follow : Follow} {definition : Definition} {content : Record}
    (declares : Declares follow definition (.record content))
    (role : roleOf reserved follow definition = .entity) {base : Text}
    (based : content.base = some base) :
    base ≠ requestBase ∧ base ≠ eventBase ∧ base ∉ reserved := by
  have resolves : resolvedBase follow definition = some base := by
    cases declares with
    | object formed declares described => exact declares.base.symm.trans based
    | composition formed inline declares described => exact declares.base.symm.trans based
  rw [roleOf, resolves] at role
  exact roleFor_some_eq_entity_iff.mp role

/-- No record has a base that calls for another role: a declared one has that of its
definition, and a synthesized one has none. -/
theorem base_free_of_declared {follow : Follow} {unlisted : List Definition}
    {entities : List Entity}
    (declared : List.Forall₂ (Declares follow) (inRole .entity reserved follow unlisted)
      (declaredEntities entities))
    (inline : ∀ entity ∈ entities, entity.synthesized = true → IsInline entity)
    {content : Record} (among : Entity.record content ∈ entities) {base : Text}
    (based : content.base = some base) :
    base ≠ requestBase ∧ base ≠ eventBase ∧ base ∉ reserved := by
  cases synthesized : content.synthesized with
  | false =>
      have isDeclared : (!(Entity.record content).synthesized) = true := by
        rw [Entity.synthesized, synthesized]
        rfl
      have own : Entity.record content ∈ declaredEntities entities :=
        List.mem_filter.mpr ⟨among, isDeclared⟩
      obtain ⟨definition, _, role, declares⟩ := exists_declares declared _ own
      exact declares.base_free role based
  | true =>
      rw [(inline _ among synthesized).base content rfl] at based
      cases based

section

variable {version : Json} {model : Model}

theorem requestNames_of_analyze (listed : config.ListsNames ignored reserved)
    (analyzed : (analyze config definitions version).outcome = .ok model) :
    model.requests.map Request.request =
      (inRole .request reserved (followIn config definitions)
        (unlisted ignored reserved definitions)).map Definition.name := by
  obtain ⟨_, contributionOf, each, _, rfl⟩ := analyze_ok_iff.mp analyzed
  rw [kept_eq_unlisted listed] at each ⊢
  exact requests_of_played fun definition member => (each definition member).played listed

theorem eventNames_of_analyze (listed : config.ListsNames ignored reserved)
    (analyzed : (analyze config definitions version).outcome = .ok model) :
    model.events.map Event.name =
      (inRole .event reserved (followIn config definitions)
        (unlisted ignored reserved definitions)).map Definition.name := by
  obtain ⟨_, contributionOf, each, _, rfl⟩ := analyze_ok_iff.mp analyzed
  rw [kept_eq_unlisted listed] at each ⊢
  exact events_of_played fun definition member => (each definition member).played listed

theorem declares_of_analyze (listed : config.ListsNames ignored reserved)
    (analyzed : (analyze config definitions version).outcome = .ok model) :
    List.Forall₂ (Declares (followIn config definitions))
      (inRole .entity reserved (followIn config definitions)
        (unlisted ignored reserved definitions))
      (declaredEntities model.entities) := by
  obtain ⟨_, contributionOf, each, _, rfl⟩ := analyze_ok_iff.mp analyzed
  rw [kept_eq_unlisted listed] at each ⊢
  exact declared_of_played fun definition member => (each definition member).played listed

end

/-- The definitions that are neither ignored nor reserved are divided among the requests,
the events and the declared entities of the model, except for those that are consumed. -/
theorem partitioned_of_analyze (listed : config.ListsNames ignored reserved) {version : Json}
    {model : Model} (analyzed : (analyze config definitions version).outcome = .ok model) :
    Partitioned config ignored reserved definitions model := by
  have requests := requestNames_of_analyze listed analyzed
  have events := eventNames_of_analyze listed analyzed
  have declared := declares_of_analyze listed analyzed
  obtain ⟨_, contributionOf, each, _, rfl⟩ := analyze_ok_iff.mp analyzed
  rw [kept_eq_unlisted listed] at each requests events declared ⊢
  have played := fun definition member => (each definition member).played listed
  refine {
    based := fun definition member _ _ _ shape => (each definition member).based shape
    requests := requests
    events := events
    entities := declared
    consumed := ⟨contributionOf, rfl,
      fun definition member => contribution_ok_iff.mpr (each definition member), ?_⟩
    names := ?_
    bases := ?_ }
  · intro definition member
    obtain ⟨held, role⟩ := List.mem_filter.mp member
    exact (played definition held).consumed (of_decide_eq_true role)
  · intro entity member
    obtain ⟨definition, held, _, declares⟩ := exists_declares declared entity member
    rw [declares.name]
    exact of_decide_eq_true (List.mem_filter.mp held).2
  · intro content member base based
    obtain ⟨entity, among, isRecord⟩ := List.mem_filterMap.mp member
    cases entity with
    | enumType other => cases isRecord
    | record other =>
        cases isRecord
        refine base_free_of_declared declared (fun entity inside synthesized => ?_) among based
        obtain ⟨part, parts, own⟩ := List.mem_flatMap.mp inside
        obtain ⟨definition, held, rfl⟩ := List.mem_map.mp parts
        exact (each definition held).inline entity own synthesized

end

/-- Definitions of every role, and one that is ignored. -/
def pingDefinitions : List Definition :=
  let place : Place := ⟨"#/definitions/Ping", .null⟩
  let letters (values : List Text) : Fragment :=
    .enumeration ⟨place, values, values.map fun _ => .null, false⟩
  let holding (properties : List (Text × Fragment)) : ObjectShape Fragment :=
    ⟨place, properties.map fun (name, type) => ⟨place, name, true, some type⟩, true, .unstated⟩
  let extending (base : Text) (properties : List (Text × Fragment)) : Fragment :=
    .composition place (some (.reference ⟨place, .text ("#/definitions/" ++ base)⟩))
      (some (.object (holding properties)))
  [⟨"Request", place, some (.object (holding []))⟩,
    ⟨"Response", place, some (.object (holding []))⟩,
    ⟨"Event", place, some (.object (holding []))⟩,
    ⟨"PingRequest", place, some (extending "Request" [("command", letters ["ping"])])⟩,
    ⟨"PingResponse", place, some (extending "Response" [])⟩,
    ⟨"Point", place, some (.object (holding [("x", .primitive place (.text "number"))]))⟩,
    ⟨"StoppedEvent", place, some (extending "Event" [("event", letters ["stopped"])])⟩,
    ⟨"Hidden", place, some (extending "Point" [])⟩,
    ⟨"Pixel", place, some (extending "Point" [("color", letters ["red", "green"])])⟩,
    ⟨"Color", place, some (letters ["red", "green"])⟩]

theorem partitioned_pingDefinitions :
    let config : Config := { ignoreClasses := some (.array [.text "Hidden"]) }
    ∃ model, (analyze config pingDefinitions .null).outcome = .ok model ∧
      model.entities.map Entity.name = ["Point", "Pixel", "PixelColor", "Color"] ∧
      Partitioned config ["Hidden"] baseMessages pingDefinitions model := by
  intro config
  have names : (analyze config pingDefinitions .null).outcome.toOption.map
      (fun model => model.entities.map Entity.name) =
        some (["Point", "Pixel", "PixelColor", "Color"] : List Text) := by
    decide +kernel
  obtain ⟨model, ended, named⟩ := Traced.exists_ok_of_map names
  exact ⟨model, ended, named, partitioned_of_analyze ⟨rfl, rfl⟩ ended⟩

end ProtocolBindings.Resolve
