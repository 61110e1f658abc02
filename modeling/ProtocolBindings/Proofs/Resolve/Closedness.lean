import ProtocolBindings.Proofs.Reference
import ProtocolBindings.Proofs.Resolve.ModelTypes
import ProtocolBindings.Proofs.Resolve.Options

/-!
# What the names of a model stand for

Read strictly, every reference names a definition, and so does every base.  A
definition becomes an entity, a request or an event, unless it is a base message or
extends one of the base messages that have no counterpart in a model.
-/

namespace ProtocolBindings.Resolve

open Model
open Schema (Definition Fragment definition?)
open Reference (Follow)

/-- A name to which some link leads. -/
def Followed (follow : Follow) (name : Text) : Prop :=
  ∃ owner link, (follow owner link).outcome = .ok name

/-- All references inside a type are followed links. -/
def RefersByLinks (follow : Follow) (type : TypeDescriptor) : Prop :=
  ∀ part ∈ type.parts, part.kind = .reference → Followed follow part.name

theorem preserved_refersByLinks (follow : Follow) : Preserved follow (RefersByLinks follow) where
  settled settled part member refers := absurd refers (settled.unnamed part member).1
  reference nullable followed := by
    intro part member _
    rw [TypeDescriptor.parts_reference, List.mem_singleton] at member
    rw [member]
    exact ⟨_, _, followed⟩
  arrayOf nullable inner := by
    intro part member refers
    rw [TypeDescriptor.parts_arrayOf] at member
    rcases List.mem_cons.mp member with rfl | inside
    · cases refers
    · exact inner part inside refers
  suggestedText name nullable := by simp [RefersByLinks]
  inlineEnum name nullable := by simp [RefersByLinks]
  anonymousObject name nullable := by simp [RefersByLinks]
  freeForm nullable := by simp [RefersByLinks]

/-- The base messages whose extensions have no counterpart in a model. -/
def consumedBases : List Text := ["ProtocolMessage", "Response"]

/-- A definition that extends a base message without a counterpart. -/
def Consumed (follow : Follow) (definition : Definition) : Prop :=
  ∃ place link extension target,
    definition.body = some (.composition place (some (.reference link)) extension) ∧
    (follow definition.name link).outcome = .ok target ∧ target ∈ consumedBases

/-- What a name stands for in the model of some definitions. -/
inductive StandsFor (follow : Follow) (definitions : List Definition) (model : Model)
    (name : Text) : Prop where
  | entity (declared : ∃ entity ∈ model.entities, entity.name = name)
  | reserved (base : name ∈ baseMessages)
  | request (paired : ∃ request ∈ model.requests, request.request = name)
  | event (announced : ∃ event ∈ model.events, event.name = name)
  | consumed (extending : ∃ definition ∈ definitions, definition.name = name ∧
      Consumed follow definition)

section

variable {config : Config} {follow : Follow} {definitions : List Definition}
variable {definition : Definition} {part : Contribution} {ignored : List Text}

theorem followBase_some_iff {owner target : Text} {base : Option Fragment} :
    (followBase follow owner base).outcome = .ok (some target) ↔
      ∃ link, base = some (.reference link) ∧ (follow owner link).outcome = .ok target := by
  cases base with
  | none => simp [followBase]
  | some fragment =>
      cases fragment with
      | reference link => simp [followBase, Traced.outcome_map_eq_ok_iff]
      | _ => simp [followBase, Processing.misused]

/-- A contribution accounts for the name of its definition. -/
theorem Contributed.accounts (listed : config.ListsNames ignored baseMessages)
    (contributed : Contributed config follow definitions definition part) :
    (∃ entity ∈ part.entities, entity.name = definition.name) ∨
    (∃ request ∈ part.requests, request.request = definition.name) ∨
    (∃ event ∈ part.events, event.name = definition.name) ∨
    Consumed follow definition := by
  cases contributed with
  | request formed based inline fixed answered argued returned =>
      exact .inr (.inl ⟨_, List.mem_singleton_self _, rfl⟩)
  | event formed based inline fixed carried =>
      exact .inr (.inr (.inl ⟨_, List.mem_singleton_self _, rfl⟩))
  | @consumed place base extension baseName formed based notRequest notEvent reserved =>
      refine .inr (.inr (.inr ?_))
      cases baseName with
      | none =>
          rw [optionHolds_none listed.reserved] at reserved
          cases reserved
      | some target =>
          rw [optionHolds_some listed.reserved] at reserved
          obtain ⟨link, rfl, followed⟩ := followBase_some_iff.mp based
          refine ⟨place, link, extension, target, formed, followed, ?_⟩
          have known : target ∈ baseMessages := of_decide_eq_true (Except.ok.inj reserved)
          simp only [baseMessages, List.mem_cons, List.not_mem_nil, or_false] at known
          rcases known with rfl | rfl | rfl | rfl
          · exact List.mem_cons_self
          · exact absurd rfl notRequest
          · exact absurd rfl notEvent
          · exact List.mem_cons_of_mem _ List.mem_cons_self
  | extended formed based notRequest notEvent free inline inferred =>
      exact .inl ⟨_, List.mem_cons_self, rfl⟩
  | enumeration formed => exact .inl ⟨_, List.mem_singleton_self _, rfl⟩
  | record formed inferred => exact .inl ⟨_, List.mem_cons_self, rfl⟩

/-- The base of a record is a followed link. -/
theorem Contributed.base_followed
    (contributed : Contributed config follow definitions definition part) {content : Record}
    (member : Entity.record content ∈ part.entities) {base : Text}
    (based : content.base = some base) : Followed follow base := by
  have notInline : ∀ {entities : List Entity}, (∀ entity ∈ entities, IsInline entity) →
      Entity.record content ∉ entities := by
    intro entities each inside
    rw [(each _ inside).base content rfl] at based
    cases based
  cases contributed with
  | request formed followed inline fixed answered argued returned =>
      rcases List.mem_append.mp member with inside | inside
      · exact absurd inside (notInline argued.inline)
      · exact absurd inside (notInline returned.inline)
  | event formed followed inline fixed carried => exact absurd member (notInline carried.inline)
  | consumed formed followed notRequest notEvent reserved => cases member
  | extended formed followed notRequest notEvent free inline inferred =>
      rcases List.mem_cons.mp member with same | inside
      · cases same
        have led := followed.trans (congrArg Except.ok based)
        obtain ⟨link, _, led⟩ := followBase_some_iff.mp led
        exact ⟨_, link, led⟩
      · exact absurd inside (notInline inferred.inline)
  | enumeration formed => cases List.mem_singleton.mp member
  | record formed inferred =>
      rcases List.mem_cons.mp member with same | inside
      · cases same
        cases based
      · exact absurd inside (notInline inferred.inline)

/-- Under strict reading a followed link names a definition. -/
theorem exists_definition_of_followed {name : Text}
    (strict : config.strictReferences.truthy = true)
    (followed : Followed (followIn config definitions) name) :
    ∃ definition ∈ definitions, definition.name = name := by
  obtain ⟨owner, link, led⟩ := followed
  rw [followIn, strict] at led
  have known := Reference.known_of_follow_strict led
  obtain ⟨definition, found⟩ := Option.isSome_iff_exists.mp known
  exact ⟨definition, List.mem_of_find?_eq_some found, by simpa using List.find?_some found⟩

/-- Each definition of a resolved schema is accounted for. -/
theorem standsFor_of_mem (listed : config.ListsNames [] baseMessages) {version : Json}
    {model : Model} (analyzed : (analyze config definitions version).outcome = .ok model)
    (member : definition ∈ definitions) :
    StandsFor (followIn config definitions) definitions model definition.name := by
  obtain ⟨_, contributionOf, each, _, rfl⟩ := analyze_ok_iff.mp analyzed
  by_cases base : definition.name ∈ baseMessages
  · exact .reserved base
  · have held : definition ∈ kept config definitions :=
      (mem_kept_of_listsNames listed).mpr ⟨member, List.not_mem_nil, base⟩
    rcases (each definition held).accounts listed with
      ⟨entity, own, named⟩ | ⟨request, own, named⟩ | ⟨event, own, named⟩ | consumed
    · refine .entity ⟨entity, ?_, named⟩
      exact List.mem_flatMap.mpr ⟨_, List.mem_map_of_mem held, own⟩
    · refine .request ⟨request, ?_, named⟩
      exact List.mem_flatMap.mpr ⟨_, List.mem_map_of_mem held, own⟩
    · refine .event ⟨event, ?_, named⟩
      exact List.mem_flatMap.mpr ⟨_, List.mem_map_of_mem held, own⟩
    · exact .consumed ⟨definition, member, rfl, consumed⟩

/-- Under strict reading a followed link names something accounted for. -/
theorem standsFor_of_followed (strict : config.strictReferences.truthy = true)
    (listed : config.ListsNames [] baseMessages) {version : Json} {model : Model}
    (analyzed : (analyze config definitions version).outcome = .ok model) {name : Text}
    (followed : Followed (followIn config definitions) name) :
    StandsFor (followIn config definitions) definitions model name := by
  obtain ⟨definition, member, rfl⟩ := exists_definition_of_followed strict followed
  exact standsFor_of_mem listed analyzed member

/-- Under strict reading every reference of a model, and every base of its records,
stands for an entity, a base message, a request, an event or a definition that is
consumed. -/
theorem references_standFor (strict : config.strictReferences.truthy = true)
    (listed : config.ListsNames [] baseMessages) {document version : Json} {model : Model}
    (resolved : (resolve config document version).outcome = .ok model) :
    ∃ definitions, (Schema.read config.openEnumMarker document).outcome = .ok definitions ∧
      (∀ type ∈ model.occurrences, type.kind = .reference →
        StandsFor (followIn config definitions) definitions model type.name) ∧
      ∀ content ∈ model.records, ∀ base, content.base = some base →
        StandsFor (followIn config definitions) definitions model base := by
  rw [resolve, Traced.outcome_bind_eq_ok_iff] at resolved
  obtain ⟨definitions, read, analyzed⟩ := resolved
  refine ⟨definitions, read, ?_, ?_⟩
  · intro type occurs refers
    obtain ⟨whole, described, inside⟩ := List.mem_flatMap.mp occurs
    rcases descriptors_of_analyze (preserved_refersByLinks _) analyzed whole described with
      byLinks | rfl
    · exact standsFor_of_followed strict listed analyzed (byLinks type inside refers)
    · rw [TypeDescriptor.parts_void, List.mem_singleton] at inside
      rw [inside] at refers
      cases refers
  · intro content member base based
    apply standsFor_of_followed strict listed analyzed
    obtain ⟨_, contributionOf, each, _, rfl⟩ := analyze_ok_iff.mp analyzed
    obtain ⟨entity, among, isRecord⟩ := List.mem_filterMap.mp member
    obtain ⟨part, parts, own⟩ := List.mem_flatMap.mp among
    obtain ⟨definition, held, rfl⟩ := List.mem_map.mp parts
    cases entity with
    | record same =>
        cases isRecord
        exact (each definition held).base_followed own based
    | enumType same => cases isRecord

end

/-- Read strictly, with every other option as it is by default. -/
def strictConfig : Config := { strictReferences := .bool true }

/-- A record that holds the last response, whose definition is consumed. -/
def lastResponseDocument : Json :=
  let link (target : Text) : Json := .object [("$ref", .text target)]
  .object [("definitions", .object [
    ("Response", .object []),
    ("PingResponse", .object [("allOf", .array [link "#/definitions/Response"])]),
    ("History", .object [
      ("type", .text "object"),
      ("properties", .object [("last", link "#/definitions/PingResponse")])])])]

theorem references_standFor_lastResponse :
    ∃ model, (resolve strictConfig lastResponseDocument .null).outcome = .ok model ∧
      ∃ definitions, (Schema.read strictConfig.openEnumMarker lastResponseDocument).outcome =
          .ok definitions ∧
        ∀ type ∈ model.occurrences, type.kind = .reference →
          StandsFor (followIn strictConfig definitions) definitions model type.name := by
  have names : (resolve strictConfig lastResponseDocument .null).outcome.toOption.map
      (fun model => model.entities.map Entity.name) = some (["History"] : List Text) := by
    decide +kernel
  obtain ⟨model, resolved, _⟩ := Traced.exists_ok_of_map names
  obtain ⟨definitions, read, references, _⟩ := references_standFor rfl ⟨rfl, rfl⟩ resolved
  exact ⟨model, resolved, definitions, read, references⟩

/-- A reference of a model need not be an entity or a base message. -/
theorem reference_without_entity :
    ∃ model, (resolve strictConfig lastResponseDocument .null).outcome = .ok model ∧
      ∃ type ∈ model.occurrences, type.kind = .reference ∧
        (∀ entity ∈ model.entities, entity.name ≠ type.name) ∧ type.name ∉ baseMessages := by
  have dangling : (resolve strictConfig lastResponseDocument .null).outcome.toOption.map
      (fun model => decide (∃ type ∈ model.occurrences, type.kind = .reference ∧
        (∀ entity ∈ model.entities, entity.name ≠ type.name) ∧ type.name ∉ baseMessages)) =
      some true := by
    decide +kernel
  obtain ⟨model, resolved, found⟩ := Traced.exists_ok_of_map dangling
  exact ⟨model, resolved, of_decide_eq_true found⟩

end ProtocolBindings.Resolve
