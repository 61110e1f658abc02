import ProtocolBindings.Proofs.Resolve.Inference
import ProtocolBindings.Resolve.Basic

/-!
# Relational specification of contributions

`Contributed` describes what a definition adds to a model: a request, an event, a
record with or without a base, an enumeration, or nothing at all if its base is
another reserved one.  `contribution_ok_iff` states that the relation agrees with
the function.
-/

namespace ProtocolBindings.Resolve

open Model
open Schema (Definition Enumeration Fragment ObjectShape Place Property definition?)
open Reference (Follow)

/-- The position of a payload. -/
def payloadPosition (owner anchor property : Text) (payload : Property Fragment) :
    Position where
  owner := owner
  anchor := anchor
  property := property
  required := payload.required

/-- The successful inferences of payloads that may be missing. -/
inductive InferredPayload (follow : Follow) (owner anchor property : Text) :
    Option (Property Fragment) → Option Inference → Prop where
  | absent : InferredPayload follow owner anchor property none none
  | present {payload : Property Fragment} {inference : Inference}
      (inferred : InferredOptional follow (payloadPosition owner anchor property payload)
        payload.fragment inference) :
      InferredPayload follow owner anchor property (some payload) (some inference)

/-- The property of a name among some. -/
def propertyNamed? (properties : List (Property Fragment)) (name : Text) :
    Option (Property Fragment) :=
  properties.find? fun property => property.name = name

/-- A request with inferences of its payloads. -/
def pairedRequest (name : Text) (place : Place) (command : Text) (response : Definition)
    (arguments body : Option Inference) : Request where
  request := name
  response := response.name
  command := command
  arguments := arguments.map fun inference => withFreeForm inference.type
  returns := some ((body.map Inference.type).getD .void)
  description := place.description
  responseDescription :=
    (response.body.map fun fragment => fragment.place.description).getD .null

/-- What a definition adds to a model. -/
inductive Contributed (config : Config) (follow : Follow) (definitions : List Definition)
    (definition : Definition) : Contribution → Prop where
  | request {place : Place} {base extension : Option Fragment}
      {shape : Option (ObjectShape Fragment)} {command : Text} {response : Definition}
      {arguments body : Option Inference}
      (formed : definition.body = some (.composition place base extension))
      (based : (followBase follow definition.name base).outcome = .ok (some requestBase))
      (inline : (inlineObject extension).outcome = .ok shape)
      (fixed : fixedValue? (ownProperties shape) "command" = some command)
      (answered :
        (Naming.response? definition.name).bind (definition? definitions) = some response)
      (argued : InferredPayload follow definition.name definition.name "arguments"
        (propertyNamed? (ownProperties shape) "arguments") arguments)
      (returned : InferredPayload follow definition.name response.name ""
        (responseBody? response) body) :
      Contributed config follow definitions definition {
        entities := payloadEntities arguments ++ payloadEntities body
        requests := [pairedRequest definition.name place command response arguments body] }
  | event {place : Place} {base extension : Option Fragment}
      {shape : Option (ObjectShape Fragment)} {eventName : Text} {body : Option Inference}
      (formed : definition.body = some (.composition place base extension))
      (based : (followBase follow definition.name base).outcome = .ok (some eventBase))
      (inline : (inlineObject extension).outcome = .ok shape)
      (fixed : fixedValue? (ownProperties shape) "event" = some eventName)
      (carried : InferredPayload follow definition.name (definition.name ++ "Arguments") ""
        (propertyNamed? (ownProperties shape) "body") body) :
      Contributed config follow definitions definition {
        entities := payloadEntities body
        events := [{
          name := definition.name
          event := eventName
          body := body.map Inference.type
          description := place.description }] }
  | consumed {place : Place} {base extension : Option Fragment} {baseName : Option Text}
      (formed : definition.body = some (.composition place base extension))
      (based : (followBase follow definition.name base).outcome = .ok baseName)
      (notRequest : baseName ≠ some requestBase) (notEvent : baseName ≠ some eventBase)
      (reserved : (optionHolds config.reservedBaseTypes baseName).outcome = .ok true) :
      Contributed config follow definitions definition {}
  | extended {place : Place} {base extension : Option Fragment} {baseName : Option Text}
      {shape : Option (ObjectShape Fragment)} {inferenceOf : Property Fragment → Inference}
      (formed : definition.body = some (.composition place base extension))
      (based : (followBase follow definition.name base).outcome = .ok baseName)
      (notRequest : baseName ≠ some requestBase) (notEvent : baseName ≠ some eventBase)
      (free : (optionHolds config.reservedBaseTypes baseName).outcome = .ok false)
      (inline : (inlineObject extension).outcome = .ok shape)
      (inferred : InferredProperties follow definition.name definition.name
        (ownProperties shape) inferenceOf) :
      Contributed config follow definitions definition {
        entities := recordBlock definition.name baseName place.description false
          (ownProperties shape) inferenceOf }
  | enumeration {values : Enumeration} (formed : definition.body = some (.enumeration values)) :
      Contributed config follow definitions definition {
        entities := [.enumType (enumTypeOf definition.name values false)] }
  | record {shape : ObjectShape Fragment} {inferenceOf : Property Fragment → Inference}
      (formed : definition.body = some (.object shape))
      (inferred : InferredProperties follow definition.name definition.name
        shape.properties inferenceOf) :
      Contributed config follow definitions definition {
        entities := recordBlock definition.name none shape.place.description false
          shape.properties inferenceOf }

/-! ## Payloads -/

theorem inferPayload?_ok_iff {follow : Follow} {owner anchor property : Text}
    {payload : Option (Property Fragment)} {inference : Option Inference} :
    (inferPayload? follow owner anchor property payload).outcome = .ok inference ↔
      InferredPayload follow owner anchor property payload inference := by
  cases payload with
  | none =>
      rw [inferPayload?, Traced.outcome_pure, Except.ok.injEq]
      constructor
      · rintro rfl
        exact .absent
      · intro inferred
        cases inferred
        rfl
  | some payload =>
      rw [inferPayload?, Traced.outcome_bind_eq_ok_iff]
      constructor
      · rintro ⟨inner, ended, result⟩
        cases result
        exact .present (inferOptional_ok_iff.mp ended)
      · intro inferred
        cases inferred with
        | present inferred => exact ⟨_, inferOptional_ok_iff.mpr inferred, rfl⟩

theorem pairRequest_ok_iff {follow : Follow} {definitions : List Definition} {name : Text}
    {place : Place} {shape : Option (ObjectShape Fragment)} {request : Request}
    {entities : List Entity} :
    (pairRequest follow definitions name place shape).outcome = .ok (request, entities) ↔
      ∃ command response arguments body,
        fixedValue? (ownProperties shape) "command" = some command ∧
        (Naming.response? name).bind (definition? definitions) = some response ∧
        InferredPayload follow name name "arguments"
          (propertyNamed? (ownProperties shape) "arguments") arguments ∧
        InferredPayload follow name response.name "" (responseBody? response) body ∧
        request = pairedRequest name place command response arguments body ∧
        entities = payloadEntities arguments ++ payloadEntities body := by
  have own : ownProperties shape = (shape.map ObjectShape.properties).getD [] := rfl
  cases fixed : fixedValue? (ownProperties shape) "command" with
  | none => simp [pairRequest, ← own, fixed, Processing.refuse]
  | some command =>
      cases answered : (Naming.response? name).bind (definition? definitions) with
      | none => simp [pairRequest, ← own, fixed, answered, Processing.refuse]
      | some response =>
          simp only [pairRequest, ← own, fixed, answered, Traced.outcome_bind_eq_ok_iff,
            inferPayload?_ok_iff, Traced.outcome_pure, Except.ok.injEq, Prod.mk.injEq,
            Option.some.injEq]
          constructor
          · rintro ⟨arguments, argued, body, returned, rfl, rfl⟩
            exact ⟨command, response, arguments, body, rfl, rfl, argued, returned, rfl, rfl⟩
          · rintro ⟨_, _, arguments, body, rfl, rfl, argued, returned, rfl, rfl⟩
            exact ⟨arguments, argued, body, returned, rfl, rfl⟩

theorem pairEvent_ok_iff {follow : Follow} {name : Text} {place : Place}
    {shape : Option (ObjectShape Fragment)} {event : Event} {entities : List Entity} :
    (pairEvent follow name place shape).outcome = .ok (event, entities) ↔
      ∃ eventName body,
        fixedValue? (ownProperties shape) "event" = some eventName ∧
        InferredPayload follow name (name ++ "Arguments") ""
          (propertyNamed? (ownProperties shape) "body") body ∧
        event = {
          name := name
          event := eventName
          body := body.map Inference.type
          description := place.description } ∧
        entities = payloadEntities body := by
  have own : ownProperties shape = (shape.map ObjectShape.properties).getD [] := rfl
  cases fixed : fixedValue? (ownProperties shape) "event" with
  | none => simp [pairEvent, ← own, fixed, Processing.refuse]
  | some eventName =>
      simp only [pairEvent, ← own, fixed, Traced.outcome_bind_eq_ok_iff,
        inferPayload?_ok_iff, Traced.outcome_pure, Except.ok.injEq, Prod.mk.injEq,
        Option.some.injEq]
      constructor
      · rintro ⟨body, carried, rfl, rfl⟩
        exact ⟨eventName, body, rfl, carried, rfl, rfl⟩
      · rintro ⟨_, body, rfl, carried, rfl, rfl⟩
        exact ⟨body, carried, rfl, rfl⟩

/-! ## Definitions -/

section

variable {config : Config} {follow : Follow} {definitions : List Definition}
variable {definition : Definition} {part : Contribution}

private theorem contributed_of_composition {place : Place}
    {base extension : Option Fragment}
    (formed : definition.body = some (.composition place base extension))
    (ended : (contribution config follow definitions definition).outcome = .ok part) :
    Contributed config follow definitions definition part := by
  simp only [contribution, formed, Traced.outcome_bind_eq_ok_iff] at ended
  obtain ⟨baseName, based, ended⟩ := ended
  by_cases request : baseName = some requestBase
  · rw [if_pos request, Traced.outcome_bind_eq_ok_iff] at ended
    obtain ⟨shape, inline, ended⟩ := ended
    rw [Traced.outcome_bind_eq_ok_iff] at ended
    obtain ⟨⟨paired, entities⟩, succeeded, result⟩ := ended
    obtain ⟨command, response, arguments, body, fixed, answered, argued, returned, rfl, rfl⟩ :=
      pairRequest_ok_iff.mp succeeded
    cases result
    exact .request formed (request ▸ based) inline fixed answered argued returned
  · rw [if_neg request] at ended
    by_cases event : baseName = some eventBase
    · rw [if_pos event, Traced.outcome_bind_eq_ok_iff] at ended
      obtain ⟨shape, inline, ended⟩ := ended
      rw [Traced.outcome_bind_eq_ok_iff] at ended
      obtain ⟨⟨announced, entities⟩, succeeded, result⟩ := ended
      obtain ⟨eventName, body, fixed, carried, rfl, rfl⟩ := pairEvent_ok_iff.mp succeeded
      cases result
      exact .event formed (event ▸ based) inline fixed carried
    · rw [if_neg event, Traced.outcome_bind_eq_ok_iff] at ended
      obtain ⟨reserved, held, ended⟩ := ended
      cases reserved with
      | true =>
          cases ended
          exact .consumed formed based request event held
      | false =>
          simp only [Bool.false_eq_true, if_false, Traced.outcome_bind_eq_ok_iff] at ended
          obtain ⟨shape, inline, entities, succeeded, result⟩ := ended
          obtain ⟨inferenceOf, inferred, rfl⟩ := recordEntities_ok_iff.mp succeeded
          cases result
          exact .extended formed based request event held inline inferred

/-- What a definition contributes is exactly what the relation says. -/
theorem contribution_ok_iff :
    (contribution config follow definitions definition).outcome = .ok part ↔
      Contributed config follow definitions definition part := by
  constructor
  · intro ended
    cases formed : definition.body with
    | none => simp [contribution, formed, Processing.refuse] at ended
    | some fragment =>
        cases fragment with
        | composition place base extension => exact contributed_of_composition formed ended
        | enumeration values =>
            simp only [contribution, formed] at ended
            cases ended
            exact .enumeration formed
        | object shape =>
            simp only [contribution, formed, Traced.outcome_bind_eq_ok_iff] at ended
            obtain ⟨entities, succeeded, result⟩ := ended
            obtain ⟨inferenceOf, inferred, rfl⟩ := recordEntities_ok_iff.mp succeeded
            cases result
            exact .record formed inferred
        | primitive _ _ | typeList _ _ | reference _ | array _ _ =>
            simp [contribution, formed, Processing.refuse] at ended
  · intro contributed
    cases contributed with
    | request formed based inline fixed answered argued returned =>
        simp only [contribution, formed, Traced.outcome_bind_eq_ok_iff]
        refine ⟨_, based, ?_⟩
        rw [if_pos rfl, Traced.outcome_bind_eq_ok_iff]
        refine ⟨_, inline, ?_⟩
        rw [Traced.outcome_bind_eq_ok_iff]
        refine ⟨_, pairRequest_ok_iff.mpr ?_, rfl⟩
        exact ⟨_, _, _, _, fixed, answered, argued, returned, rfl, rfl⟩
    | event formed based inline fixed carried =>
        simp only [contribution, formed, Traced.outcome_bind_eq_ok_iff]
        refine ⟨_, based, ?_⟩
        rw [if_neg (by decide), if_pos rfl, Traced.outcome_bind_eq_ok_iff]
        refine ⟨_, inline, ?_⟩
        rw [Traced.outcome_bind_eq_ok_iff]
        refine ⟨_, pairEvent_ok_iff.mpr ?_, rfl⟩
        exact ⟨_, _, fixed, carried, rfl, rfl⟩
    | consumed formed based notRequest notEvent reserved =>
        simp only [contribution, formed, Traced.outcome_bind_eq_ok_iff]
        refine ⟨_, based, ?_⟩
        rw [if_neg notRequest, if_neg notEvent, Traced.outcome_bind_eq_ok_iff]
        exact ⟨_, reserved, rfl⟩
    | extended formed based notRequest notEvent free inline inferred =>
        simp only [contribution, formed, Traced.outcome_bind_eq_ok_iff]
        refine ⟨_, based, ?_⟩
        rw [if_neg notRequest, if_neg notEvent, Traced.outcome_bind_eq_ok_iff]
        refine ⟨_, free, ?_⟩
        simp only [Bool.false_eq_true, if_false, Traced.outcome_bind_eq_ok_iff]
        refine ⟨_, inline, _, recordEntities_ok_iff.mpr ?_, rfl⟩
        exact ⟨_, inferred, rfl⟩
    | enumeration formed =>
        simp only [contribution, formed]
        rfl
    | @record shape inferenceOf formed inferred =>
        simp only [contribution, formed, Traced.outcome_bind_eq_ok_iff]
        refine ⟨_, recordEntities_ok_iff.mpr ?_, rfl⟩
        exact ⟨inferenceOf, inferred, rfl⟩

end

end ProtocolBindings.Resolve
