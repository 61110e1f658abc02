import ProtocolBindings.Config
import ProtocolBindings.Resolve.Pairing
import ProtocolBindings.Schema.Reader

/-!
# Resolution of schemas

Every definition that is neither ignored nor reserved contributes to the model
on its own: a record, an enumeration, a request or an event, together with the
entities synthesized for it.  The contributions are put together in the order of
the definitions, and no two entities may have one name.
-/

namespace ProtocolBindings.Resolve

open Model
open Processing (checked misused refuse)
open Schema (Definition Fragment ObjectShape definition?)
open Reference (Follow)

/-- What a definition adds to a model. -/
structure Contribution where
  entities : List Entity := []
  requests : List Request := []
  events : List Event := []

/-- The name of the base of a composition, which must be a reference. -/
def followBase (follow : Follow) (owner : Text) : Option Fragment → Processing (Option Text)
  | none => return none
  | some (.reference link) => do
      let target ← follow owner link
      return some target
  | some _ => misused .nonReferenceBase

/-- The inline object that a composition adds to its base. -/
def inlineObject : Option Fragment → Processing (Option (ObjectShape Fragment))
  | none => return none
  | some (.object shape) => return some shape
  | some _ => misused .nonObjectExtension

/-- Whether an option that holds names holds a name, or null for want of one. -/
def optionHolds (option : Option Json) (name : Option Text) : Processing Bool := do
  let names ← checked (Config.required option)
  checked (names.holds name)

/-- What a definition adds to a model. -/
def contribution (config : Config) (follow : Follow) (definitions : List Definition)
    (definition : Definition) : Processing Contribution := do
  let name := definition.name
  match definition.body with
  | some (.composition place base extension) =>
      let baseName ← followBase follow name base
      if baseName = some requestBase then
        let shape ← inlineObject extension
        let (request, entities) ← pairRequest follow definitions name place shape
        return { entities := entities, requests := [request] }
      else if baseName = some eventBase then
        let shape ← inlineObject extension
        let (event, entities) ← pairEvent follow name place shape
        return { entities := entities, events := [event] }
      else if ← optionHolds config.reservedBaseTypes baseName then
        return {}
      else
        let shape ← inlineObject extension
        let entities ← recordEntities follow name shape baseName place.description
        return { entities := entities }
  | some (.enumeration values) =>
      return { entities := [.enumType (enumTypeOf name values false)] }
  | some (.object shape) =>
      let entities ← recordEntities follow name (some shape) none shape.place.description
      return { entities := entities }
  | _ => refuse .unsupportedShape name definition.place.path

/-- Whether a definition is passed over because it is ignored or reserved. -/
def isSkipped (config : Config) (definition : Definition) : Processing Bool := do
  if ← optionHolds config.ignoreClasses (some definition.name) then return true
  else optionHolds config.reservedBaseTypes (some definition.name)

/-- Where each entity of a model comes from, in messages. -/
abbrev Origins := List (Text × Text)

/-- How the origin of an entity is described. -/
def originOf (definition : Definition) (entity : Entity) : Text :=
  if entity.synthesized then "synthesized in " ++ definition.place.path
  else definition.place.path

/-- Record the origins of the entities of a definition, refusing a name that is
already taken. -/
def recordOrigins (definition : Definition) : Origins → List Entity → Except Failure Origins
  | origins, [] => .ok origins
  | origins, entity :: entities =>
      match origins.lookup entity.name with
      | some previous =>
          .error (.resolution ⟨
            .duplicateEntity entity.name (originOf definition entity) previous,
            definition.name, definition.place.path⟩)
      | none =>
          recordOrigins definition ((entity.name, originOf definition entity) :: origins)
            entities

/-- The contributions of the definitions in order, after entities of the given
origins. -/
def contributions (config : Config) (follow : Follow) (definitions : List Definition) :
    Origins → List Definition → Processing (List Contribution)
  | _, [] => return []
  | origins, definition :: rest => do
      if ← isSkipped config definition then
        contributions config follow definitions origins rest
      else
        let first ← contribution config follow definitions definition
        let origins ← Traced.ofExcept (recordOrigins definition origins first.entities)
        let others ← contributions config follow definitions origins rest
        return first :: others

/-- How the links of a schema are followed. -/
def followIn (config : Config) (definitions : List Definition) : Follow :=
  Reference.follow (fun name => (definition? definitions name).isSome)
    config.strictReferences.truthy

/-- The model of a parsed schema. -/
def analyze (config : Config) (definitions : List Definition) (version : Json) :
    Processing Model := do
  let parts ← contributions config (followIn config definitions) definitions [] definitions
  let model : Model := {
    entities := parts.flatMap Contribution.entities
    requests := parts.flatMap Contribution.requests
    events := parts.flatMap Contribution.events
    version := version }
  Traced.note
    (.schemaResolved model.entities.length model.requests.length model.events.length)
  return model

/-- The model of a schema document. -/
def resolve (config : Config) (document version : Json) : Processing Model := do
  let definitions ← Schema.read config.openEnumMarker document
  analyze config definitions version

end ProtocolBindings.Resolve
