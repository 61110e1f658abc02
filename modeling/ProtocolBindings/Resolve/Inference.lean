import ProtocolBindings.Model.Basic
import ProtocolBindings.Naming
import ProtocolBindings.Reference
import ProtocolBindings.Resolve.TypeList

/-!
# Inference of types

Every fragment has a type, and inline objects and enumerations are turned into
entities of their own, named by where they stand.  The entities come in the order
in which they are met, a record before those of its properties.
-/

namespace ProtocolBindings.Resolve

open Model
open Schema (Additional Enumeration Fragment ObjectShape Property)
open Reference (Follow)

/-- Where a fragment stands. -/
structure Position where
  /-- The definition being resolved, for messages. -/
  owner : Text := ""
  /-- The entity that encloses the fragment. -/
  anchor : Text := ""
  /-- The property that holds the fragment; empty when the anchor is its name. -/
  property : Text := ""
  required : Bool := true
deriving DecidableEq, Repr

/-- The name of an entity synthesized at a position. -/
def Position.entityName (position : Position) : Text :=
  if position.property.isEmpty then position.anchor
  else Naming.synthesized position.anchor position.property

/-- The position of the items of an array at a position. -/
def Position.ofItems (position : Position) : Position :=
  { position with required := true }

/-- A type, and the entities synthesized on the way to it. -/
structure Inference where
  type : TypeDescriptor
  entities : List Entity := []

/-- An enumeration as an entity, with a label for each value. -/
def enumTypeOf (name : Text) (values : Enumeration) (synthesized : Bool) : EnumType where
  name := name
  members := List.zipWith (fun value description =>
    let (label, explicit) := Naming.label value
    { value := value, label := label, description := description, explicitName := explicit })
    values.values values.descriptions
  isOpen := values.isOpen
  description := values.place.description
  synthesized := synthesized

/-- The scalar that a type name of its own stands for. -/
def scalarOf? (typeName : Text) : Option PrimitiveType :=
  match typeName.string? with
  | some "string" => some .string
  | some "integer" => some .integer
  | some "number" => some .number
  | some "boolean" => some .boolean
  | _ => none

/-- The type of a named scalar: any value for a name that is no scalar, which
includes null. -/
def ofTypeName (typeName : Json) (nullable : Bool) : Except Misuse TypeDescriptor :=
  match typeName with
  | .text name =>
      match scalarOf? name with
      | some scalar => .ok (.scalar scalar nullable)
      | none => .ok (TypeDescriptor.any.withNullable (nullable || name == "null"))
  | value =>
      if value.hashable then .ok (TypeDescriptor.any.withNullable nullable)
      else .error .unhashable

/-- The type of an inline object without declared properties. -/
def ofUndeclared (owner : Text) (additional : Additional Fragment) (nullable : Bool) :
    Except Failure TypeDescriptor :=
  match additional with
  | .unstated => .ok (TypeDescriptor.any.withNullable nullable)
  | .anything => .ok (.mapOf (.scalar .string false) nullable)
  | .described fragment =>
      match fragment with
      | .object shape =>
          if shape.declared then
            .error (.resolution ⟨.propertiesInValues, owner, shape.place.path⟩)
          else .ok (.mapOf (.scalar .string false) nullable)
      | _ => .ok (.mapOf (.scalar .string false) nullable)

/-- An enumeration at a position: a text with suggested values if it is open, and
a type of its own otherwise. -/
def ofEnumeration (position : Position) (values : Enumeration) : Inference :=
  let name := position.entityName
  let entity := enumTypeOf name values true
  let nullable := !position.required
  { type := if values.isOpen then .suggestedText name nullable else .inlineEnum name nullable
    entities := [.enumType entity] }

mutual

/-- The type of a fragment at a position. -/
def infer (follow : Follow) (position : Position) : Fragment → Processing Inference
  | .reference link => do
      let target ← follow position.owner link
      return { type := .reference target (!position.required) }
  | .array _ none => return { type := .arrayOf .any (!position.required) }
  | .array _ (some items) => do
      let inner ← infer follow position.ofItems items
      return { type := .arrayOf inner.type (!position.required), entities := inner.entities }
  | .object shape => inferObject follow position shape
  | .enumeration values => return ofEnumeration position values
  | .typeList place types => do
      let type ← Traced.ofExcept
        (collapse standardMembers types position.required position.owner place.path)
      return { type := type }
  | .primitive _ typeName => do
      let type ← Processing.checked (ofTypeName typeName (!position.required))
      return { type := type }
  | .composition _ _ _ =>
      return { type := TypeDescriptor.any.withNullable (!position.required) }

/-- The type of an inline object: a record of its own if it declares properties,
a mapping if it admits others, and any value otherwise. -/
def inferObject (follow : Follow) (position : Position) :
    ObjectShape Fragment → Processing Inference
  | ⟨place, properties, declared, additional⟩ => do
      if declared then
        let name := position.entityName
        let owner := if position.owner.isEmpty then name else position.owner
        let (resolved, entities) ← inferProperties follow owner name properties
        let record : Record := {
          name := name
          base := none
          properties := resolved
          description := place.description
          synthesized := true }
        return {
          type := .anonymousObject name (!position.required)
          entities := .record record :: entities }
      else
        let type ← Traced.ofExcept
          (ofUndeclared position.owner additional (!position.required))
        return { type := type }

/-- The properties of a record, and the entities synthesized for them. -/
def inferProperties (follow : Follow) (owner name : Text) :
    List (Property Fragment) → Processing (List RecordProperty × List Entity)
  | [] => return ([], [])
  | ⟨place, property, required, fragment⟩ :: rest => do
      let position : Position :=
        { owner := owner, anchor := name, property := property, required := required }
      let inference ← inferOptional follow position fragment
      let (others, entities) ← inferProperties follow owner name rest
      let resolved : RecordProperty := {
        name := property
        type := inference.type
        required := required
        description := place.description }
      return (resolved :: others, inference.entities ++ entities)

/-- The type of a fragment that may be missing, which is any value then. -/
def inferOptional (follow : Follow) (position : Position) :
    Option Fragment → Processing Inference
  | none => return { type := TypeDescriptor.any.withNullable (!position.required) }
  | some fragment => infer follow position fragment

end

/-- The entities of a definition that is a record: the record, and those
synthesized for its properties. -/
def recordEntities (follow : Follow) (name : Text) (shape : Option (ObjectShape Fragment))
    (base : Option Text) (description : Json) : Processing (List Entity) := do
  let (resolved, entities) ←
    inferProperties follow name name ((shape.map ObjectShape.properties).getD [])
  let record : Record := {
    name := name
    base := base
    properties := resolved
    description := description
    synthesized := false }
  return .record record :: entities

end ProtocolBindings.Resolve
