import ProtocolBindings.Proofs.Resolve.Partition
import ProtocolBindings.Proofs.Resolve.RequestPairs

/-!
# Responses of a model

A definition that extends the base of all responses has no form of its own in a model.  It
is the response of one request if the name of some request calls for it.  As only requests
look for their responses, any other response is left out.
-/

namespace ProtocolBindings.Resolve

open Model
open Schema (Definition)
open Reference (Follow)

/-- The base of all responses. -/
def responseBase : Text := "Response"

/-- A definition is a request whose name calls for a response. -/
structure CallsFor (follow : Follow) (definition response : Definition) : Prop where
  unreserved : definition.name ∉ baseMessages
  based : resolvedBase follow definition = some requestBase
  named : Naming.response? definition.name = some response.name

/-- The requests of a model that are bound to a response. -/
def requestsAnsweredBy (model : Model) (response : Definition) : List Request :=
  model.requests.filter fun request => request.response = response.name

/-- What becomes of a response in the model of some definitions. -/
structure Answers (follow : Follow) (definitions : List Definition) (model : Model)
    (response : Definition) : Prop where
  atMostOnce : (requestsAnsweredBy model response).length ≤ 1
  once : (requestsAnsweredBy model response).length = 1 ↔
    ∃ definition ∈ definitions, CallsFor follow definition response
  noEntity : response.name ∉ (declaredEntities model.entities).map Entity.name
  noRequest : response.name ∉ model.requests.map Request.request
  noEvent : response.name ∉ model.events.map Event.name

section

variable {config : Config} {definitions : List Definition} {version : Json} {model : Model}
variable {definition response : Definition} {follow : Follow}

theorem roleOf_of_responseBase (based : resolvedBase follow response = some responseBase) :
    roleOf baseMessages follow response = .consumed := by
  rw [roleOf, based]
  decide

/-- No definition of another role has the name of a response. -/
theorem name_not_mem_inRole (distinct : (definitions.map Definition.name).Nodup)
    (member : response ∈ definitions)
    (based : resolvedBase follow response = some responseBase) {role : Role}
    (other : role ≠ .consumed) :
    response.name ∉ (inRole role baseMessages follow
      (unlisted [] baseMessages definitions)).map Definition.name := by
  intro named
  obtain ⟨definition, held, same⟩ := List.mem_map.mp named
  -- Names are distinct, so it would be the response itself, which is consumed.
  obtain ⟨among, playing⟩ := List.mem_filter.mp held
  have one := List.inj_on_of_nodup_map distinct (List.mem_of_mem_filter among) member same
  rw [one, roleOf_of_responseBase based] at playing
  exact other (of_decide_eq_true playing).symm

/-- The name of a request of a model calls for the name of its response. -/
theorem response?_of_analyze (analyzed : (analyze config definitions version).outcome = .ok model)
    {request : Request} (member : request ∈ model.requests) :
    Naming.response? request.request = some request.response := by
  obtain ⟨_, _, _, _, bound⟩ := exists_binds_of_analyze analyzed request member
  rw [bound.requestName, bound.responseName]
  exact Naming.response?_eq_some_iff.mpr bound.names

theorem roleOf_eq_request_iff :
    roleOf baseMessages follow definition = .request ↔
      resolvedBase follow definition = some requestBase := by
  rw [roleOf]
  cases resolvedBase follow definition with
  | none => simp [roleFor]
  | some base =>
      rw [roleFor, Option.some.injEq]
      split
      · simp_all
      · split
        · simp_all
        · split <;> simp_all

/-- The requests of a model have the names of the definitions that extend the base of all
requests. -/
theorem mem_requestNames_iff (listed : config.ListsNames [] baseMessages)
    (analyzed : (analyze config definitions version).outcome = .ok model) {name : Text} :
    name ∈ model.requests.map Request.request ↔
      ∃ definition ∈ definitions, definition.name ∉ baseMessages ∧
        resolvedBase (followIn config definitions) definition = some requestBase ∧
        definition.name = name := by
  rw [requestNames_of_analyze listed analyzed, List.mem_map]
  refine exists_congr fun definition => ?_
  simp only [inRole, unlisted, List.mem_filter, List.not_mem_nil, not_false_eq_true, true_and,
    decide_eq_true_eq, roleOf_eq_request_iff, and_assoc]

/-- A response is bound to a request exactly if some definition calls for it. -/
theorem exists_request_iff_callsFor (listed : config.ListsNames [] baseMessages)
    (analyzed : (analyze config definitions version).outcome = .ok model) :
    (∃ request ∈ model.requests, request.response = response.name) ↔
      ∃ definition ∈ definitions,
        CallsFor (followIn config definitions) definition response := by
  constructor
  · rintro ⟨request, member, same⟩
    obtain ⟨definition, among, unreserved, based, named⟩ :=
      (mem_requestNames_iff listed analyzed).mp (List.mem_map_of_mem member)
    refine ⟨definition, among, unreserved, based, ?_⟩
    rw [named, ← same]
    exact response?_of_analyze analyzed member
  · rintro ⟨definition, among, unreserved, based, named⟩
    obtain ⟨request, member, same⟩ := List.mem_map.mp
      ((mem_requestNames_iff listed analyzed).mpr ⟨definition, among, unreserved, based, rfl⟩)
    have answered := response?_of_analyze analyzed member
    rw [same, named] at answered
    exact ⟨request, member, (Option.some.inj answered).symm⟩

theorem length_requestsAnsweredBy :
    (requestsAnsweredBy model response).length =
      (model.requests.map Request.response).count response.name := by
  rw [requestsAnsweredBy, List.count, List.countP_map, List.countP_eq_length_filter]
  congr 1
  exact List.filter_congr fun request _ => by simp [beq_eq_decide]

/-- A response answers one request if some definition calls for it and none otherwise, and
nothing else in the model stems from it. -/
theorem answers_of_analyze (listed : config.ListsNames [] baseMessages)
    (distinct : (definitions.map Definition.name).Nodup)
    (analyzed : (analyze config definitions version).outcome = .ok model)
    (member : response ∈ definitions)
    (based : resolvedBase (followIn config definitions) response = some responseBase) :
    Answers (followIn config definitions) definitions model response := by
  have declared := declares_of_analyze listed analyzed
  have paired := responseNames_nodup_of_analyze distinct analyzed
  have atMostOnce := List.nodup_iff_count_le_one.mp paired response.name
  refine ⟨?_, ?_, ?_, ?_, ?_⟩
  · rwa [length_requestsAnsweredBy]
  · rw [length_requestsAnsweredBy, ← exists_request_iff_callsFor listed analyzed,
      ← List.mem_map, ← List.count_pos_iff]
    omega
  · intro named
    obtain ⟨entity, among, same⟩ := List.mem_map.mp named
    obtain ⟨definition, held, role, declares⟩ := exists_declares declared entity among
    rw [declares.name] at same
    exact name_not_mem_inRole distinct member based (by decide)
      (List.mem_map.mpr ⟨definition, List.mem_filter.mpr ⟨held, decide_eq_true role⟩, same⟩)
  · rw [requestNames_of_analyze listed analyzed]
    exact name_not_mem_inRole distinct member based (by decide)
  · rw [eventNames_of_analyze listed analyzed]
    exact name_not_mem_inRole distinct member based (by decide)

/-- A response of a document answers one request if some definition calls for it and none
otherwise, and nothing else in the model stems from it. -/
theorem answers_of_resolve (listed : config.ListsNames [] baseMessages) {document : Json}
    (read : (Schema.read config.openEnumMarker document).outcome = .ok definitions)
    (distinct : (definitions.map Definition.name).Nodup)
    (resolved : (resolve config document version).outcome = .ok model) :
    ∀ response ∈ definitions,
      resolvedBase (followIn config definitions) response = some responseBase →
      Answers (followIn config definitions) definitions model response := by
  intro response member based
  exact answers_of_analyze listed distinct (analyze_of_resolve read resolved) member based

end

/-- A request with its response, and a response for which no request calls. -/
def statusDocument : Json :=
  let link (name : Text) : Json := .object [("$ref", .text ("#/definitions/" ++ name))]
  let extending (base : Text) (properties : List (Text × Json)) : Json :=
    .object [("allOf", .array [link base, .object [("properties", .object properties)]])]
  .object [("definitions", .object [
    ("Request", .object []),
    ("Response", .object []),
    ("PingRequest", extending "Request" [("command", .object [("enum", .array [.text "ping"])])]),
    ("PingResponse", extending "Response" []),
    ("StatusResponse", extending "Response" [("body", .object [("type", .text "string")])])])]

/-- The definitions of that document. -/
def statusDefinitions : List Definition :=
  (Schema.read (.text "_enum") statusDocument).valueOr []

theorem read_statusDocument :
    (Schema.read (.text "_enum") statusDocument).outcome = .ok statusDefinitions :=
  Traced.outcome_eq_valueOr [] (by decide +kernel)

theorem answers_statusDocument :
    ∃ model, (resolve {} statusDocument .null).outcome = .ok model ∧
      (statusDefinitions.map Definition.name).Nodup ∧
      ∃ response ∈ statusDefinitions, response.name = Text.ofString "PingResponse" ∧
        resolvedBase (followIn {} statusDefinitions) response = some responseBase ∧
        (requestsAnsweredBy model response).length = 1 ∧
        Answers (followIn {} statusDefinitions) statusDefinitions model response := by
  have distinct : (statusDefinitions.map Definition.name).Nodup := by decide +kernel
  have known : (resolve {} statusDocument .null).outcome.toOption.map
      (fun model => model.requests.map Request.response) =
        some (["PingResponse"] : List Text) := by
    decide +kernel
  obtain ⟨model, resolved, paired⟩ := Traced.exists_ok_of_map known
  obtain ⟨response, member, named, based⟩ : ∃ response ∈ statusDefinitions,
      response.name = Text.ofString "PingResponse" ∧
      resolvedBase (followIn {} statusDefinitions) response = some responseBase := by
    decide +kernel
  refine ⟨model, resolved, distinct, response, member, named, based, ?_, ?_⟩
  · rw [length_requestsAnsweredBy, paired, named]
    decide
  · exact answers_of_resolve Config.listsNames_default read_statusDocument distinct resolved
      response member based

/-- A response for which no request calls is part of no pair. -/
theorem unanswered_statusDocument :
    ∃ model, (resolve {} statusDocument .null).outcome = .ok model ∧
      ∃ response ∈ statusDefinitions, response.name ∉ baseMessages ∧
        resolvedBase (followIn {} statusDefinitions) response = some responseBase ∧
        requestsAnsweredBy model response = [] := by
  have known : (resolve {} statusDocument .null).outcome.toOption.map
      (fun model => decide (∃ response ∈ statusDefinitions, response.name ∉ baseMessages ∧
        resolvedBase (followIn {} statusDefinitions) response = some responseBase ∧
        ∀ request ∈ model.requests, request.response ≠ response.name)) = some true := by
    decide +kernel
  obtain ⟨model, resolved, found⟩ := Traced.exists_ok_of_map known
  obtain ⟨response, member, unreserved, based, apart⟩ := of_decide_eq_true found
  refine ⟨model, resolved, response, member, unreserved, based, ?_⟩
  exact List.filter_eq_nil_iff.mpr fun request among => by simp [apart request among]

end ProtocolBindings.Resolve
