import ProtocolBindings.Failure
import ProtocolBindings.Model.Basic

/-!
# Queries

Questions about a model: its records and enumerations, the entity of a name, and what that
has.  A property can only be asked of a record and values only of an enumeration.
-/

namespace ProtocolBindings.Model

/-- The first property of a name. -/
def Record.property? (record : Record) (name : Text) : Option RecordProperty :=
  record.properties.find? fun property => property.name = name

/-- The texts that are exchanged for the values of an enumeration. -/
def EnumType.values (enumType : EnumType) : List Text :=
  enumType.members.map EnumMember.value

/-- The records of a model, in order. -/
def records (model : Model) : List Record := model.entities.filterMap Entity.record?

/-- The enumerations of a model, in order. -/
def enumTypes (model : Model) : List EnumType := model.entities.filterMap Entity.enumType?

/-- The last entity of a name. -/
def entity? (model : Model) (name : Text) : Option Entity :=
  model.entities.reverse.find? fun entity => entity.name = name

/-- The first property of a name in the record of a name. -/
def propertyOf (model : Model) (entity property : Text) :
    Except Misuse (Option RecordProperty) :=
  match model.entity? entity with
  | some (.record content) => .ok (content.property? property)
  | _ => .error .wrongEntity

/-- The texts exchanged for the values of the enumeration of a name. -/
def valuesOf (model : Model) (entity : Text) : Except Misuse (List Text) :=
  match model.entity? entity with
  | some (.enumType content) => .ok content.values
  | _ => .error .wrongEntity

end ProtocolBindings.Model
