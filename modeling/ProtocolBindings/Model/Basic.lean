import ProtocolBindings.Json.Basic
import ProtocolBindings.Model.TypeDescriptor

/-!
# Protocol models

A model is a resolved schema: its records and enumerations, among them those
synthesized for inline objects and enumerations, and the operations that pair
requests with responses or announce events.
-/

namespace ProtocolBindings

namespace Model

/-- A property of a record. -/
structure RecordProperty where
  name : Text
  type : TypeDescriptor
  required : Bool
  description : Json

/-- A type with named properties, which may extend a base. -/
structure Record where
  name : Text
  base : Option Text
  properties : List RecordProperty
  description : Json
  synthesized : Bool

/-- A value of an enumeration: the text that is exchanged, its label, and whether
the text cannot be had back from the label. -/
structure EnumMember where
  value : Text
  label : Text
  description : Json
  explicitName : Bool

/-- A type with listed values, which are only suggestions when it is open. -/
structure EnumType where
  name : Text
  members : List EnumMember
  isOpen : Bool
  description : Json
  synthesized : Bool

/-- A named type of a model. -/
inductive Entity where
  | record (content : Record)
  | enumType (content : EnumType)

namespace Entity

/-- The name of an entity. -/
def name : Entity → Text
  | .record content => content.name
  | .enumType content => content.name

/-- Whether an entity was synthesized for a fragment. -/
def synthesized : Entity → Bool
  | .record content => content.synthesized
  | .enumType content => content.synthesized

/-- The record that an entity is. -/
def record? : Entity → Option Record
  | .record content => some content
  | .enumType _ => none

/-- The enumeration that an entity is. -/
def enumType? : Entity → Option EnumType
  | .record _ => none
  | .enumType content => some content

end Entity

/-- A request bound to its response. -/
structure Request where
  request : Text
  response : Text
  command : Text
  /-- The type of the arguments, if the request takes any. -/
  arguments : Option TypeDescriptor
  /-- The type of the result; a resolved request always has one. -/
  returns : Option TypeDescriptor
  description : Json
  responseDescription : Json

/-- An event, with the type of its body if it carries one. -/
structure Event where
  name : Text
  event : Text
  body : Option TypeDescriptor
  description : Json

end Model

/-- A resolved schema. -/
structure Model where
  entities : List Model.Entity := []
  requests : List Model.Request := []
  events : List Model.Event := []
  version : Json := .text ""

end ProtocolBindings
