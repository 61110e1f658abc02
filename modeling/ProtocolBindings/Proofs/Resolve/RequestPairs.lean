import Mathlib.Data.List.Nodup
import ProtocolBindings.Proofs.Model.Variant
import ProtocolBindings.Proofs.Resolve.EntityNames
import ProtocolBindings.Proofs.Resolve.ModelTypes
import ProtocolBindings.Proofs.Resolve.Nullability

/-!
# Pairs of requests and responses

Every request of a model stems from two definitions whose names differ in their end only.
Its arguments have the type of a property of the one, its result that of a property of the
other, and as names with different beginnings stay different, no response is used twice.
-/

namespace ProtocolBindings

namespace Naming

theorem withoutEnd?_eq_some_iff {ending name stem : Text} :
    withoutEnd? ending name = some stem ↔ name = stem ++ ending := by
  unfold withoutEnd?
  split
  · rename_i ends
    obtain ⟨before, rfl⟩ := List.isSuffixOf_iff_suffix.mp ends
    simp [eq_comm]
  · rename_i ends
    simp only [reduceCtorEq, false_iff]
    rintro rfl
    exact ends (List.isSuffixOf_iff_suffix.mpr ⟨stem, rfl⟩)

/-- The name of a response is that of its request with another end. -/
theorem response?_eq_some_iff {request response : Text} :
    response? request = some response ↔
      ∃ stem, request = stem ++ requestSuffix ∧ response = stem ++ responseSuffix := by
  simp only [response?, Option.map_eq_some_iff, withoutEnd?_eq_some_iff,
    eq_comm (a := response)]

/-- No two requests have a response of one name. -/
theorem response?_injective {request other response : Text}
    (answered : response? request = some response)
    (alsoAnswered : response? other = some response) : request = other := by
  obtain ⟨stem, rfl, rfl⟩ := response?_eq_some_iff.mp answered
  obtain ⟨otherStem, rfl, same⟩ := response?_eq_some_iff.mp alsoAnswered
  rw [List.append_cancel_right same]

end Naming

namespace Resolve

open Model
open Schema (Definition Enumeration Fragment ObjectShape Place Property definition?)
open Reference (Follow)

/-- The object in which a message declares its properties: its own, or the one by which it
extends its base. -/
def messageObject? (message : Definition) : Option (ObjectShape Fragment) :=
  match message.body with
  | some (.composition _ _ (some (.object shape))) => some shape
  | some (.object shape) => some shape
  | _ => none

/-- The property of a name that a message declares. -/
def declared? (message : Definition) (name : Text) : Option (Property Fragment) :=
  (messageObject? message).bind fun shape => shape.property? name

theorem responseBody?_eq_declared? (response : Definition) :
    responseBody? response = declared? response "body" := by
  unfold responseBody? declared? messageObject?
  split <;> simp_all

/-- What a request adds to its base is what it declares. -/
theorem propertyNamed?_eq_declared? {definition : Definition} {place : Place}
    {base extension : Option Fragment} {shape : Option (ObjectShape Fragment)}
    (formed : definition.body = some (.composition place base extension))
    (inline : (inlineObject extension).outcome = .ok shape) (name : Text) :
    propertyNamed? (ownProperties shape) name = declared? definition name := by
  cases extension with
  | none =>
      cases inline
      simp [declared?, messageObject?, formed, ownProperties, propertyNamed?]
  | some fragment =>
      cases fragment with
      | object own =>
          cases inline
          simp [declared?, messageObject?, formed, ownProperties, propertyNamed?,
            ObjectShape.property?]
      | primitive _ _ | enumeration _ | typeList _ _ | reference _ | array _ _
      | composition _ _ _ => cases inline

/-- The result of a request is the type of the body of its response, and an inline type is
found in the model under the name of the response. -/
structure ReturnsBody (follow : Follow) (model : Model) (request : Request)
    (body : Property Fragment) : Prop where
  inferred : ∃ inference,
    (inferPayload follow request.request request.response "" body).outcome = .ok inference ∧
    request.returns = some inference.type ∧
    inference.type.nullable = (!body.required || body.fragment.any namesNull)
  record : ∀ shape, body.fragment = some (.object shape) → shape.declared = true →
    request.returns = some (.anonymousObject request.response (!body.required)) ∧
    ∃ content, model.entity? request.response = some (.record content) ∧
      content.synthesized = true ∧
      content.properties.map RecordProperty.name = shape.properties.map Property.name
  enumeration : ∀ values, body.fragment = some (.enumeration values) →
    request.returns = some (if values.isOpen
      then .suggestedText request.response (!body.required)
      else .inlineEnum request.response (!body.required)) ∧
    model.entity? request.response =
      some (.enumType (enumTypeOf request.response values true))

/-- The arguments of a request have the type of a property, and are free-form objects if
that refers to certain definitions. -/
structure TakesArguments (follow : Follow) (request : Request)
    (payload : Property Fragment) : Prop where
  inferred : ∃ inference,
    (inferPayload follow request.request request.request "arguments" payload).outcome =
      .ok inference ∧
    request.arguments = some (withFreeForm inference.type)
  freeForm : ∀ link target, payload.fragment = some (.reference link) →
    (follow request.request link).outcome = .ok target → target ∈ freeFormArguments →
    request.arguments = some (.mapOf .any (!payload.required))

/-- A request binds the definition of a message to the one of its response. -/
structure Binds (follow : Follow) (model : Model) (definition response : Definition)
    (request : Request) : Prop where
  requestName : request.request = definition.name
  responseName : request.response = response.name
  names : ∃ stem : Text, definition.name = stem ++ "Request" ∧ response.name = stem ++ "Response"
  void : request.returns = some .void ↔ declared? response "body" = none
  returns : ∀ body, declared? response "body" = some body →
    ReturnsBody follow model request body
  bare : request.arguments = none ↔ declared? definition "arguments" = none
  takes : ∀ payload, declared? definition "arguments" = some payload →
    TakesArguments follow request payload

/-! ## Payloads -/

section

variable {follow : Follow} {owner anchor property : Text}

theorem InferredPayload.isNone_iff {payload : Option (Property Fragment)}
    {inference : Option Inference}
    (inferred : InferredPayload follow owner anchor property payload inference) :
    inference = none ↔ payload = none := by
  cases inferred with
  | absent => exact ⟨fun _ => rfl, fun _ => rfl⟩
  | present inferred => exact ⟨nofun, nofun⟩

/-- The result of a request is no value only for want of a payload. -/
theorem InferredPayload.result_eq_void_iff {payload : Option (Property Fragment)}
    {inference : Option Inference}
    (inferred : InferredPayload follow owner anchor property payload inference) :
    (inference.map Inference.type).getD .void = .void ↔ payload = none := by
  cases inferred with
  | absent => exact ⟨fun _ => rfl, fun _ => rfl⟩
  | present inferred =>
      have value := (inferred.all (preserved_wellFormed _)).type.kind_ne_void
      refine ⟨fun void => ?_, nofun⟩
      exact absurd (congrArg TypeDescriptor.kind void) value

theorem inferPayload_ok_iff {payload : Property Fragment} {inference : Inference} :
    (inferPayload follow owner anchor property payload).outcome = .ok inference ↔
      InferredOptional follow (payloadPosition owner anchor property payload)
        payload.fragment inference :=
  inferOptional_ok_iff

/-- A declared object is a record that is named by its position. -/
theorem Inferred.of_declared {position : Position} {shape : ObjectShape Fragment}
    {inference : Inference} (inferred : Inferred follow position (.object shape) inference)
    (declared : shape.declared = true) :
    ∃ inferenceOf, inference = recordInference position shape inferenceOf := by
  cases inferred with
  | settled settles => simp [settled?, declared] at settles
  | @record _ _ inferenceOf _ _ _ => exact ⟨inferenceOf, rfl⟩

theorem Inferred.of_enumeration {position : Position} {values : Enumeration}
    {inference : Inference}
    (inferred : Inferred follow position (.enumeration values) inference) :
    inference = ofEnumeration position values := by
  cases inferred with
  | settled settles => cases settles
  | enumeration => rfl

theorem Inferred.of_reference {position : Position} {link : Schema.Link} {target : Text}
    {inference : Inference}
    (inferred : Inferred follow position (.reference link) inference)
    (followed : (follow position.owner link).outcome = .ok target) :
    inference.type = .reference target (!position.required) := by
  cases inferred with
  | settled settles => cases settles
  | reference same =>
      rw [followed] at same
      cases same
      rfl

end

/-- The result of a request is the type of the body of its response. -/
theorem returnsBody_of_inferred {follow : Follow} {model : Model} {request : Request}
    {body : Property Fragment} {inference : Inference}
    (inferred : InferredOptional follow
      (payloadPosition request.request request.response "" body) body.fragment inference)
    (returned : request.returns = some inference.type)
    (found : ∀ entity ∈ inference.entities, model.entity? entity.name = some entity) :
    ReturnsBody follow model request body where
  inferred := ⟨inference, inferPayload_ok_iff.mpr inferred, returned, inferred.nullable⟩
  record shape written declared := by
    rw [written] at inferred
    obtain ⟨inferenceOf, rfl⟩ := Inferred.of_declared inferred declared
    refine ⟨returned, _, found _ List.mem_cons_self, rfl, ?_⟩
    simp [resolvedProperty, Function.comp_def]
  enumeration values written := by
    rw [written] at inferred
    obtain rfl := Inferred.of_enumeration inferred
    exact ⟨returned, found _ List.mem_cons_self⟩

theorem takesArguments_of_inferred {follow : Follow} {request : Request}
    {payload : Property Fragment} {inference : Inference}
    (inferred : InferredOptional follow
      (payloadPosition request.request request.request "arguments" payload)
      payload.fragment inference)
    (taken : request.arguments = some (withFreeForm inference.type)) :
    TakesArguments follow request payload where
  inferred := ⟨inference, inferPayload_ok_iff.mpr inferred, taken⟩
  freeForm link target written followed free := by
    rw [written] at inferred
    rw [taken, Inferred.of_reference inferred followed, withFreeForm, if_pos]
    · rfl
    · simpa using free

section

variable {config : Config} {follow : Follow} {definitions : List Definition}
variable {definition : Definition} {part : Contribution}

/-- The request that a definition contributes binds it to its response, if a model finds
the entities contributed along with it. -/
theorem Contributed.binds {model : Model}
    (contributed : Contributed config follow definitions definition part)
    (found : ∀ entity ∈ part.entities, model.entity? entity.name = some entity) :
    ∀ request ∈ part.requests, ∃ response ∈ definitions,
      Binds follow model definition response request := by
  cases contributed with
  | @request place base extension shape command response arguments body formed based inline
      fixed answered argued returned =>
      rw [List.forall_mem_singleton]
      obtain ⟨expected, named, first⟩ := Option.bind_eq_some_iff.mp answered
      have same : response.name = expected := by simpa using List.find?_some first
      rw [propertyNamed?_eq_declared? formed inline] at argued
      rw [responseBody?_eq_declared?] at returned
      refine ⟨response, List.mem_of_find?_eq_some first, rfl, rfl, ?_, ?_, ?_, ?_, ?_⟩
      · rw [same]
        exact Naming.response?_eq_some_iff.mp named
      · rw [← returned.result_eq_void_iff]
        exact Option.some_inj
      · intro payload declared
        rw [declared] at returned
        cases returned with
        | present inferred =>
            exact returnsBody_of_inferred inferred rfl fun entity member =>
              found entity (List.mem_append_right _ member)
      · rw [← argued.isNone_iff]
        exact Option.map_eq_none_iff
      · intro payload declared
        rw [declared] at argued
        cases argued with
        | present inferred => exact takesArguments_of_inferred inferred rfl
  | event | consumed | extended | enumeration | record => exact nofun

/-- A definition contributes one request at most, which has its name. -/
theorem Contributed.requests_sublist
    (contributed : Contributed config follow definitions definition part) :
    (part.requests.map Request.request).Sublist [definition.name] := by
  cases contributed with
  | request => exact .refl _
  | event | consumed | extended | enumeration | record => exact List.nil_sublist _

end

/-! ## Models -/

/-- The requests of a model bind definitions, each to a response of its own. -/
structure PairsRequests (follow : Follow) (definitions : List Definition) (model : Model) :
    Prop where
  binds : ∀ request ∈ model.requests, ∃ definition ∈ definitions,
    ∃ response ∈ definitions, Binds follow model definition response request
  distinct : (model.requests.map Request.response).Nodup

/-- The names of the requests of a model are names of definitions, in their order. -/
theorem requestNames_sublist {config : Config} {definitions : List Definition}
    {version : Json} {model : Model}
    (analyzed : (analyze config definitions version).outcome = .ok model) :
    (model.requests.map Request.request).Sublist (definitions.map Definition.name) := by
  obtain ⟨_, contributionOf, each, _, rfl⟩ := analyze_ok_iff.mp analyzed
  refine List.Sublist.trans ?_ ((List.filter_sublist (p := isKept config)).map Definition.name)
  simp only [assembled, List.flatMap_map, List.map_flatMap]
  change (List.flatMap _ (kept config definitions)).Sublist
    ((kept config definitions).map Definition.name)
  generalize kept config definitions = kept at each
  induction kept with
  | nil => exact .refl _
  | cons definition rest ih =>
      have own := (each definition List.mem_cons_self).requests_sublist
      have others := ih fun other member => each other (List.mem_cons_of_mem definition member)
      exact own.append others

theorem exists_binds_of_analyze {config : Config} {definitions : List Definition}
    {version : Json} {model : Model}
    (analyzed : (analyze config definitions version).outcome = .ok model) :
    ∀ request ∈ model.requests, ∃ definition ∈ definitions, ∃ response ∈ definitions,
      Binds (followIn config definitions) model definition response request := by
  have found := fun entity (member : entity ∈ model.entities) =>
    entity?_name_of_nodup (names_nodup_of_analyze analyzed) member
  obtain ⟨_, contributionOf, each, _, rfl⟩ := analyze_ok_iff.mp analyzed
  simp only [assembled, List.flatMap_map, List.mem_flatMap] at found ⊢
  rintro request ⟨definition, named, own⟩
  refine ⟨definition, List.mem_of_mem_filter named, ?_⟩
  exact (each definition named).binds
    (fun entity member => found entity ⟨definition, named, member⟩) request own

/-- The name of a response determines that of its request. -/
theorem responseNames_nodup_of_analyze {config : Config} {definitions : List Definition}
    {version : Json} {model : Model} (distinct : (definitions.map Definition.name).Nodup)
    (analyzed : (analyze config definitions version).outcome = .ok model) :
    (model.requests.map Request.response).Nodup := by
  have requests := distinct.sublist (requestNames_sublist analyzed)
  refine requests.of_map.map_on fun request member other otherMember same => ?_
  obtain ⟨definition, _, response, _, bound⟩ := exists_binds_of_analyze analyzed request member
  obtain ⟨otherDefinition, _, otherResponse, _, otherBound⟩ :=
    exists_binds_of_analyze analyzed other otherMember
  have answered := Naming.response?_eq_some_iff.mpr bound.names
  have otherAnswered := Naming.response?_eq_some_iff.mpr otherBound.names
  rw [← bound.requestName, ← bound.responseName] at answered
  rw [← otherBound.requestName, ← otherBound.responseName, ← same] at otherAnswered
  exact List.inj_on_of_nodup_map requests member otherMember
    (Naming.response?_injective answered otherAnswered)

/-- If no two definitions have one name, every request of a model binds a definition to the
one of its response, and no two requests have one response. -/
theorem pairsRequests_of_analyze {config : Config} {definitions : List Definition}
    {version : Json} {model : Model} (distinct : (definitions.map Definition.name).Nodup)
    (analyzed : (analyze config definitions version).outcome = .ok model) :
    PairsRequests (followIn config definitions) definitions model where
  binds := exists_binds_of_analyze analyzed
  distinct := responseNames_nodup_of_analyze distinct analyzed

/-- Definitions of requests with a free-form argument, with a record for a body and with an
enumeration for one. -/
def evaluateDefinitions : List Definition :=
  let place : Place := ⟨"#/definitions/Evaluate", .null⟩
  let letters (values : List Text) : Fragment :=
    .enumeration ⟨place, values, values.map fun _ => .null, false⟩
  let holding (properties : List (Text × Fragment)) : ObjectShape Fragment :=
    ⟨place, properties.map fun (name, type) => ⟨place, name, false, some type⟩, true, .unstated⟩
  let link (name : Text) : Fragment := .reference ⟨place, .text ("#/definitions/" ++ name)⟩
  let extending (base : Text) (properties : List (Text × Fragment)) : Fragment :=
    .composition place (some (link base)) (some (.object (holding properties)))
  [⟨"Request", place, some (.object (holding []))⟩,
    ⟨"Response", place, some (.object (holding []))⟩,
    ⟨"LaunchRequest", place, some (extending "Request" [("command", letters ["launch"]),
      ("arguments", link "LaunchRequestArguments")])⟩,
    ⟨"LaunchRequestArguments", place, some (.object (holding []))⟩,
    ⟨"LaunchResponse", place, some (extending "Response" [])⟩,
    ⟨"EvaluateRequest", place, some (extending "Request" [("command", letters ["evaluate"])])⟩,
    ⟨"EvaluateResponse", place, some (extending "Response" [
      ("body", .object (holding [("result", .primitive place (.text "string"))]))])⟩,
    ⟨"ModeRequest", place, some (extending "Request" [("command", letters ["mode"])])⟩,
    ⟨"ModeResponse", place, some (extending "Response" [("body", letters ["up", "down"])])⟩]

theorem pairsRequests_evaluateDefinitions :
    (evaluateDefinitions.map Definition.name).Nodup ∧
    ∃ model, (analyze {} evaluateDefinitions .null).outcome = .ok model ∧
      model.requests.map (fun request =>
        (request.arguments.map TypeDescriptor.kind, request.returns.map TypeDescriptor.kind)) =
          [(some .map, some .void), (none, some .anonymousObject), (none, some .inlineEnum)] ∧
      PairsRequests (followIn {} evaluateDefinitions) evaluateDefinitions model := by
  have distinct : (evaluateDefinitions.map Definition.name).Nodup := by decide +kernel
  have kinds : (analyze {} evaluateDefinitions .null).outcome.toOption.map
      (fun model => model.requests.map fun request =>
        (request.arguments.map TypeDescriptor.kind, request.returns.map TypeDescriptor.kind)) =
        some [(some .map, some .void), (none, some .anonymousObject),
          (none, some .inlineEnum)] := by
    decide +kernel
  obtain ⟨model, analyzed, known⟩ := Traced.exists_ok_of_map kinds
  exact ⟨distinct, model, analyzed, known, pairsRequests_of_analyze distinct analyzed⟩

end Resolve

end ProtocolBindings
