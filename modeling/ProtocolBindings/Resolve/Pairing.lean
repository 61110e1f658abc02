import ProtocolBindings.Resolve.Inference

/-!
# Pairing of messages

A request is bound to the response that its name calls for, and takes the type of
its arguments and of the response's body.  An event takes the type of its body.
-/

namespace ProtocolBindings.Resolve

open Model
open Schema (Definition Enumeration Fragment ObjectShape Place Property definition?)
open Reference (Follow)

/-- The base of all requests. -/
def requestBase : Text := "Request"

/-- The base of all events. -/
def eventBase : Text := "Event"

/-- Definitions whose values are free-form objects, whatever the schema says. -/
def freeFormArguments : List Text := ["LaunchRequestArguments", "AttachRequestArguments"]

/-- Arguments of a free-form definition are a mapping to any value. -/
def withFreeForm (type : TypeDescriptor) : TypeDescriptor :=
  if type.kind = .reference && freeFormArguments.contains type.name then
    .mapOf .any type.nullable
  else type

/-- The only value that a property admits, taken from its enumeration. -/
def fixedValue? (properties : List (Property Fragment)) (name : Text) : Option Text := do
  let property ← properties.find? fun property => property.name = name
  match property.fragment with
  | some (.enumeration values) => values.values.head?
  | _ => none

/-- The property that holds the body of a response. -/
def responseBody? (response : Definition) : Option (Property Fragment) :=
  match response.body with
  | some (.composition _ _ (some (.object shape))) => shape.property? "body"
  | some (.object shape) => shape.property? "body"
  | _ => none

/-- The type of a property that carries a payload, whose entities are named by
the anchor and, unless it is empty, the given property. -/
def inferPayload (follow : Follow) (owner anchor property : Text)
    (payload : Property Fragment) : Processing Inference :=
  inferOptional follow
    { owner := owner, anchor := anchor, property := property, required := payload.required }
    payload.fragment

/-- A payload that may be missing. -/
def inferPayload? (follow : Follow) (owner anchor property : Text) :
    Option (Property Fragment) → Processing (Option Inference)
  | none => return none
  | some payload => do
      let inference ← inferPayload follow owner anchor property payload
      return some inference

/-- The entities of a payload that may be missing. -/
def payloadEntities (payload : Option Inference) : List Entity :=
  (payload.map Inference.entities).getD []

/-- A request, and the entities synthesized for its payloads. -/
def pairRequest (follow : Follow) (definitions : List Definition) (name : Text)
    (place : Place) (extension : Option (ObjectShape Fragment)) :
    Processing (Request × List Entity) := do
  let properties := (extension.map ObjectShape.properties).getD []
  match fixedValue? properties "command" with
  | none => Processing.refuse (.missingDiscriminator "command") name ""
  | some command =>
      let responseName := Naming.response? name
      match responseName.bind (definition? definitions) with
      | none =>
          let expected := responseName.getD (name ++ Naming.responseSuffix)
          Processing.refuse (.missingResponse expected) name ""
      | some response => do
          let arguments ← inferPayload? follow name name "arguments"
            (properties.find? fun property => property.name = "arguments")
          let body ← inferPayload? follow name response.name "" (responseBody? response)
          let request : Request := {
            request := name
            response := response.name
            command := command
            arguments := arguments.map fun inference => withFreeForm inference.type
            returns := some ((body.map Inference.type).getD .void)
            description := place.description
            responseDescription :=
              (response.body.map fun fragment => fragment.place.description).getD .null }
          return (request, payloadEntities arguments ++ payloadEntities body)

/-- An event, and the entities synthesized for its body. -/
def pairEvent (follow : Follow) (name : Text) (place : Place)
    (extension : Option (ObjectShape Fragment)) : Processing (Event × List Entity) := do
  let properties := (extension.map ObjectShape.properties).getD []
  match fixedValue? properties "event" with
  | none => Processing.refuse (.missingDiscriminator "event") name ""
  | some eventName =>
      let body ← inferPayload? follow name (name ++ "Arguments") ""
        (properties.find? fun property => property.name = "body")
      let event : Event := {
        name := name
        event := eventName
        body := body.map Inference.type
        description := place.description }
      return (event, payloadEntities body)

end ProtocolBindings.Resolve
