import ProtocolBindings.Model.Query
import ProtocolBindings.Proofs.Json
import ProtocolBindings.Proofs.Model.Occurrence

/-!
# Renderable models

A model can be rendered if its types are well-formed, its requests have results and
its descriptions are texts or missing.  Such a model is compared with the same model with all
descriptions missing.
-/

namespace ProtocolBindings.Model

open Json (IsRemark)

/-- The descriptions of an entity are texts or missing. -/
inductive Entity.Described : Entity → Prop where
  | record {content : Record} (own : IsRemark content.description)
      (properties : ∀ property ∈ content.properties, IsRemark property.description) :
      Described (.record content)
  | enumType {content : EnumType} (own : IsRemark content.description)
      (members : ∀ member ∈ content.members, IsRemark member.description) :
      Described (.enumType content)

/-- A request has a result, and its descriptions are texts or missing. -/
structure Request.Described (request : Request) : Prop where
  own : IsRemark request.description
  response : IsRemark request.responseDescription
  returns : request.returns ≠ none

/-- A model that can be rendered. -/
structure Renderable (model : Model) : Prop where
  types : ∀ type ∈ model.descriptors, type.WellFormed ∨ type = .void
  entities : ∀ entity ∈ model.entities, entity.Described
  requests : ∀ request ∈ model.requests, request.Described
  events : ∀ event ∈ model.events, IsRemark event.description

/-! ## Models without descriptions -/

def RecordProperty.undescribed (property : RecordProperty) : RecordProperty :=
  { property with description := .null }

def Record.undescribed (record : Record) : Record :=
  { record with
    properties := record.properties.map RecordProperty.undescribed
    description := .null }

def EnumMember.undescribed (member : EnumMember) : EnumMember :=
  { member with description := .null }

def EnumType.undescribed (enumType : EnumType) : EnumType :=
  { enumType with
    members := enumType.members.map EnumMember.undescribed
    description := .null }

def Entity.undescribed : Entity → Entity
  | .record content => .record content.undescribed
  | .enumType content => .enumType content.undescribed

def Request.undescribed (request : Request) : Request :=
  { request with description := .null, responseDescription := .null }

def Event.undescribed (event : Event) : Event :=
  { event with description := .null }

/-- A model without its descriptions. -/
def undescribed (model : Model) : Model :=
  { model with
    entities := model.entities.map Entity.undescribed
    requests := model.requests.map Request.undescribed
    events := model.events.map Event.undescribed }

/-- The descriptions of a model are texts or missing. -/
structure Described (model : Model) : Prop where
  entities : ∀ entity ∈ model.entities, entity.Described
  requests : ∀ request ∈ model.requests,
    IsRemark request.description ∧ IsRemark request.responseDescription
  events : ∀ event ∈ model.events, IsRemark event.description

theorem records_undescribed (model : Model) :
    model.undescribed.records = model.records.map Record.undescribed := by
  rw [records, records, undescribed, List.filterMap_map, List.map_filterMap]
  congr 1
  funext entity
  cases entity <;> rfl

theorem enumTypes_undescribed (model : Model) :
    model.undescribed.enumTypes = model.enumTypes.map EnumType.undescribed := by
  rw [enumTypes, enumTypes, undescribed, List.filterMap_map, List.map_filterMap]
  congr 1
  funext entity
  cases entity <;> rfl

variable {model : Model}

theorem Described.record (described : model.Described) {record : Record}
    (among : record ∈ model.records) : Entity.Described (.record record) := by
  obtain ⟨entity, inside, isRecord⟩ := List.mem_filterMap.mp among
  cases entity with
  | enumType content => cases isRecord
  | record content =>
      cases isRecord
      exact described.entities _ inside

theorem Described.enumType (described : model.Described) {enumType : EnumType}
    (among : enumType ∈ model.enumTypes) : Entity.Described (.enumType enumType) := by
  obtain ⟨entity, inside, isEnum⟩ := List.mem_filterMap.mp among
  cases entity with
  | record content => cases isEnum
  | enumType content =>
      cases isEnum
      exact described.entities _ inside

end ProtocolBindings.Model
