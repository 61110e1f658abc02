import ProtocolBindings.Model.Query
import ProtocolBindings.Proofs.Json.Whole

/-!
# Whole models

A model is whole if its texts are that its code shows as they are: the names of types, of
bases and of operations, and the descriptions.  The names of properties, the labels and the
values of enumerations are shown as identifiers or as escaped literals only.
-/

namespace ProtocolBindings.Model

/-- A type that names only whole names, at any depth. -/
inductive TypeDescriptor.Whole : TypeDescriptor → Prop where
  | intro {type : TypeDescriptor} (name : type.name.Whole)
      (suggested : ∀ openEnum ∈ type.openEnum, openEnum.Whole)
      (arguments : ∀ argument ∈ type.arguments, Whole argument) : Whole type

namespace TypeDescriptor

theorem whole_any (nullable : Bool) : (any.withNullable nullable).Whole :=
  .intro (Text.whole_ofString "") nofun nofun

theorem whole_void : void.Whole :=
  .intro (Text.whole_ofString "") nofun nofun

theorem whole_scalar (type : PrimitiveType) (nullable : Bool) : (scalar type nullable).Whole :=
  .intro (Text.whole_ofString "") nofun nofun

theorem whole_suggestedText {name : Text} (whole : name.Whole) (nullable : Bool) :
    (suggestedText name nullable).Whole :=
  .intro (Text.whole_ofString "") (fun _ same => Option.some.inj same ▸ whole) nofun

theorem whole_reference {name : Text} (whole : name.Whole) (nullable : Bool) :
    (reference name nullable).Whole :=
  .intro whole nofun nofun

theorem whole_inlineEnum {name : Text} (whole : name.Whole) (nullable : Bool) :
    (inlineEnum name nullable).Whole :=
  .intro whole nofun nofun

theorem whole_anonymousObject {name : Text} (whole : name.Whole) (nullable : Bool) :
    (anonymousObject name nullable).Whole :=
  .intro whole nofun nofun

theorem whole_arrayOf {element : TypeDescriptor} (whole : element.Whole) (nullable : Bool) :
    (arrayOf element nullable).Whole :=
  .intro (Text.whole_ofString "") nofun (List.forall_mem_singleton.mpr whole)

theorem whole_mapOf {value : TypeDescriptor} (whole : value.Whole) (nullable : Bool) :
    (mapOf value nullable).Whole :=
  .intro (Text.whole_ofString "") nofun
    (List.forall_mem_cons.mpr ⟨whole_scalar _ _, List.forall_mem_singleton.mpr whole⟩)

theorem whole_unionOf (members : List PrimitiveType) (nullable : Bool) :
    (unionOf members nullable).Whole :=
  .intro (Text.whole_ofString "") nofun (List.forall_mem_map.mpr fun _ _ => whole_scalar _ _)

end TypeDescriptor

/-- A record whose name, base, types and descriptions are whole. -/
structure Record.Whole (record : Record) : Prop where
  name : record.name.Whole
  base : ∀ base ∈ record.base, base.Whole
  types : ∀ property ∈ record.properties, property.type.Whole
  described : record.description.Whole
  descriptions : ∀ property ∈ record.properties, property.description.Whole

/-- An enumeration whose name and descriptions are whole. -/
structure EnumType.Whole (enumType : EnumType) : Prop where
  name : enumType.name.Whole
  described : enumType.description.Whole
  descriptions : ∀ member ∈ enumType.members, member.description.Whole

/-- An entity that is whole as what it is. -/
def Entity.Whole : Entity → Prop
  | .record content => content.Whole
  | .enumType content => content.Whole

/-- A request whose command, types and descriptions are whole. -/
structure Request.Whole (request : Request) : Prop where
  command : request.command.Whole
  arguments : ∀ type ∈ request.arguments, type.Whole
  returns : ∀ type ∈ request.returns, type.Whole
  described : request.description.Whole
  responseDescribed : request.responseDescription.Whole

/-- An event whose name, body and description are whole. -/
structure Event.Whole (event : Event) : Prop where
  announced : event.event.Whole
  body : ∀ type ∈ event.body, type.Whole
  described : event.description.Whole

/-- A model of whole entities, requests and events. -/
structure Whole (model : Model) : Prop where
  entities : ∀ entity ∈ model.entities, entity.Whole
  requests : ∀ request ∈ model.requests, request.Whole
  events : ∀ event ∈ model.events, event.Whole

end ProtocolBindings.Model
