import ProtocolBindings.Model.Query
import ProtocolBindings.Proofs.Model.Descriptor

/-!
# Occurrences of type descriptors

The descriptors of a model are the types of properties, arguments, results and
event bodies.  A descriptor occurs in a model as often as it is part of these.  A
coinage is a synthesized entity as a descriptor names it: by kind and name.
-/

namespace ProtocolBindings.Model

/-- A synthesized entity: its kind and its name. -/
inductive Coinage where
  | closedEnum (name : Text)
  | openEnum (name : Text)
  | record (name : Text)
deriving DecidableEq, Repr

/-- The name of a synthesized entity. -/
def Coinage.name : Coinage → Text
  | .closedEnum name | .openEnum name | .record name => name

/-- The synthesized entities that a descriptor itself names. -/
def TypeDescriptor.coinages (descriptor : TypeDescriptor) : List Coinage :=
  (match descriptor.kind with
    | .inlineEnum => [.closedEnum descriptor.name]
    | .anonymousObject => [.record descriptor.name]
    | _ => []) ++ descriptor.openEnum.toList.map .openEnum

@[simp] theorem coinages_withNullable_any (nullable : Bool) :
    (TypeDescriptor.any.withNullable nullable).coinages = [] := rfl

@[simp] theorem coinages_any : TypeDescriptor.any.coinages = [] := rfl

@[simp] theorem coinages_void : TypeDescriptor.void.coinages = [] := rfl

@[simp] theorem coinages_scalar (type : PrimitiveType) (nullable : Bool) :
    (TypeDescriptor.scalar type nullable).coinages = [] := rfl

@[simp] theorem coinages_mapOf (value : TypeDescriptor) (nullable : Bool) :
    (TypeDescriptor.mapOf value nullable).coinages = [] := rfl

@[simp] theorem coinages_arrayOf (element : TypeDescriptor) (nullable : Bool) :
    (TypeDescriptor.arrayOf element nullable).coinages = [] := rfl

@[simp] theorem coinages_unionOf (members : List PrimitiveType) (nullable : Bool) :
    (TypeDescriptor.unionOf members nullable).coinages = [] := rfl

@[simp] theorem coinages_reference (name : Text) (nullable : Bool) :
    (TypeDescriptor.reference name nullable).coinages = [] := rfl

@[simp] theorem coinages_inlineEnum (name : Text) (nullable : Bool) :
    (TypeDescriptor.inlineEnum name nullable).coinages = [.closedEnum name] := rfl

@[simp] theorem coinages_anonymousObject (name : Text) (nullable : Bool) :
    (TypeDescriptor.anonymousObject name nullable).coinages = [.record name] := rfl

@[simp] theorem coinages_suggestedText (openEnum : Text) (nullable : Bool) :
    (TypeDescriptor.suggestedText openEnum nullable).coinages = [.openEnum openEnum] := rfl

/-- What a synthesized entity is; a declared one is no coinage. -/
def Entity.coinage? : Entity → Option Coinage
  | .record content => if content.synthesized then some (.record content.name) else none
  | .enumType content =>
      if content.synthesized then
        some (if content.isOpen then .openEnum content.name else .closedEnum content.name)
      else none

/-- Whether a descriptor itself is of a synthesized entity of a name. -/
def TypeDescriptor.names (descriptor : TypeDescriptor) (name : Text) : Bool :=
  (descriptor.kind = .inlineEnum || descriptor.kind = .anonymousObject) &&
      descriptor.name = name ||
    descriptor.openEnum = some name

theorem TypeDescriptor.names_iff {descriptor : TypeDescriptor} {name : Text} :
    descriptor.names name = true ↔ ∃ coinage ∈ descriptor.coinages, coinage.name = name := by
  obtain ⟨kind, primitive, own, arguments, nullable, openEnum⟩ := descriptor
  cases kind <;> cases openEnum <;> simp [names, coinages, Coinage.name]

namespace Entity

theorem name_of_coinage? {entity : Entity} {coinage : Coinage}
    (coined : entity.coinage? = some coinage) : coinage.name = entity.name := by
  cases entity with
  | record content =>
      simp only [coinage?, Option.ite_none_right_eq_some] at coined
      cases coined.2
      rfl
  | enumType content =>
      simp only [coinage?, Option.ite_none_right_eq_some] at coined
      cases coined.2
      cases content.isOpen <;> rfl

theorem exists_coinage {entity : Entity} (synthesized : entity.synthesized = true) :
    ∃ coinage, entity.coinage? = some coinage := by
  cases entity with
  | record content => exact ⟨_, if_pos synthesized⟩
  | enumType content => exact ⟨_, if_pos synthesized⟩

theorem record_of_coinage {entity : Entity} {name : Text}
    (coined : entity.coinage? = some (.record name)) :
    ∃ content, entity = .record content ∧ content.synthesized = true := by
  cases entity with
  | record content =>
      simp only [coinage?, Option.ite_none_right_eq_some] at coined
      exact ⟨content, rfl, coined.1⟩
  | enumType content =>
      cases shape : content.isOpen <;> simp [coinage?, shape] at coined

theorem enumType_of_closedEnum {entity : Entity} {name : Text}
    (coined : entity.coinage? = some (.closedEnum name)) :
    ∃ content, entity = .enumType content ∧ content.synthesized = true ∧
      content.isOpen = false := by
  cases entity with
  | record content => simp [coinage?] at coined
  | enumType content =>
      cases shape : content.isOpen with
      | true => simp [coinage?, shape] at coined
      | false =>
          simp only [coinage?, Option.ite_none_right_eq_some] at coined
          exact ⟨content, rfl, coined.1, shape⟩

theorem enumType_of_openEnum {entity : Entity} {name : Text}
    (coined : entity.coinage? = some (.openEnum name)) :
    ∃ content, entity = .enumType content ∧ content.synthesized = true ∧
      content.isOpen = true := by
  cases entity with
  | record content => simp [coinage?] at coined
  | enumType content =>
      cases shape : content.isOpen with
      | false => simp [coinage?, shape] at coined
      | true =>
          simp only [coinage?, Option.ite_none_right_eq_some] at coined
          exact ⟨content, rfl, coined.1, shape⟩

end Entity

/-- The types of the properties of an entity. -/
def Entity.descriptors : Entity → List TypeDescriptor
  | .record content => content.properties.map RecordProperty.type
  | .enumType _ => []

/-- The types of the arguments and of the result of a request. -/
def Request.descriptors (request : Request) : List TypeDescriptor :=
  request.arguments.toList ++ request.returns.toList

/-- The type of the body of an event. -/
def Event.descriptors (event : Event) : List TypeDescriptor := event.body.toList

/-- The types of properties, arguments, results and event bodies. -/
def descriptors (model : Model) : List TypeDescriptor :=
  model.entities.flatMap Entity.descriptors ++ model.requests.flatMap Request.descriptors ++
    model.events.flatMap Event.descriptors

section

variable {model : Model} {type : TypeDescriptor}

theorem mem_descriptors_of_entity {entity : Entity} (member : entity ∈ model.entities)
    (own : type ∈ entity.descriptors) : type ∈ model.descriptors :=
  List.mem_append_left _ (List.mem_append_left _ (List.mem_flatMap.mpr ⟨entity, member, own⟩))

theorem mem_descriptors_of_request {request : Request} (member : request ∈ model.requests)
    (own : type ∈ request.descriptors) : type ∈ model.descriptors :=
  List.mem_append_left _ (List.mem_append_right _ (List.mem_flatMap.mpr ⟨request, member, own⟩))

theorem mem_descriptors_of_event {event : Event} (member : event ∈ model.events)
    (own : type ∈ event.descriptors) : type ∈ model.descriptors :=
  List.mem_append_right _ (List.mem_flatMap.mpr ⟨event, member, own⟩)

end

/-- Every occurrence of a descriptor, at any depth. -/
def occurrences (model : Model) : List TypeDescriptor :=
  model.descriptors.flatMap TypeDescriptor.parts

end ProtocolBindings.Model
