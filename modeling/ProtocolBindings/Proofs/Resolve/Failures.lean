import ProtocolBindings.Proofs.Model.Renderable
import ProtocolBindings.Proofs.Reference
import ProtocolBindings.Proofs.Resolve.ModelTypes
import ProtocolBindings.Proofs.Resolve.Options
import ProtocolBindings.Proofs.Resolve.TypeLists
import ProtocolBindings.Proofs.Schema.Reading

/-!
# Failures of the analysis

Well-typed definitions meet none but expected failures, and the entities, requests
and events that they lead to are described by texts.
-/

namespace ProtocolBindings.Resolve

open Model
open Json (IsRemark)
open Schema (Definition Enumeration Fragment ObjectShape Place Property definition?)
open Reference (Follow)

/-! ## Settled types -/

theorem ofTypeName_text (name : Text) (nullable : Bool) :
    ∃ type, ofTypeName (.text name) nullable = .ok type := by
  rw [ofTypeName]
  cases scalarOf? name with
  | none => exact ⟨_, rfl⟩
  | some scalar => exact ⟨_, rfl⟩

theorem ofUndeclared_expected {strict : Bool} {owner : Text}
    {additional : Schema.Additional Fragment} {nullable : Bool} {failure : Failure}
    (refused : ofUndeclared owner additional nullable = .error failure) :
    failure.Expected strict := by
  unfold ofUndeclared at refused
  split at refused
  · cases refused
  · cases refused
  · split at refused
    · split at refused
      · cases refused
        trivial
      · cases refused
    · cases refused

/-- A settled type is refused for an expected reason only. -/
theorem settled?_expected {strict : Bool} {position : Position} {fragment : Fragment}
    (typed : fragment.WellTyped) {failure : Failure}
    (settles : settled? position fragment = some (.error failure)) :
    failure.Expected strict := by
  cases typed with
  | primitive name =>
      obtain ⟨type, named⟩ := ofTypeName_text name (!position.required)
      rw [settled?, named] at settles
      cases settles
  | typeList names =>
      have refused := Option.some.inj settles
      obtain ⟨type, collapsed⟩ := collapse_texts names position.required position.owner _
      rw [collapsed] at refused
      cases refused
  | @array _ items inner => cases items <;> cases settles
  | object place described types =>
      rw [settled?] at settles
      split at settles
      · cases settles
      · exact ofUndeclared_expected (Option.some.inj settles)
  | reference target => cases settles
  | enumeration values => cases settles

/-! ## Inferences -/

/-- An enumeration becomes an entity that is described as the enumeration is. -/
theorem enumTypeOf_described {values : Enumeration} (typed : values.WellTyped) (name : Text)
    (synthesized : Bool) : Entity.Described (.enumType (enumTypeOf name values synthesized)) := by
  refine .enumType typed.place ?_
  intro member inside
  rw [enumTypeOf, ← List.map_uncurry_zip_eq_zipWith] at inside
  obtain ⟨⟨value, description⟩, paired, rfl⟩ := List.mem_map.mp inside
  exact typed.descriptions description (List.of_mem_zip paired).2

section

variable {strict : Bool} {follow : Follow}

/-- Links to texts meet none but expected failures. -/
def FollowsTexts (strict : Bool) (follow : Follow) : Prop :=
  ∀ owner place reference, (follow owner ⟨place, .text reference⟩).Ends (fun _ => True)
    (Failure.Expected strict)

/-- A run with none but expected failures, whose value has described entities. -/
def InfersWell (strict : Bool) (run : Processing Inference) : Prop :=
  run.Ends (fun inference => ∀ entity ∈ inference.entities, entity.Described)
    (Failure.Expected strict)

theorem inferOptional_ends {position : Position} {fragment : Option Fragment}
    (each : ∀ inner, fragment = some inner → InfersWell strict (infer follow position inner)) :
    InfersWell strict (inferOptional follow position fragment) := by
  cases fragment with
  | none =>
      rw [inferOptional]
      exact List.forall_mem_nil _
  | some inner =>
      rw [inferOptional]
      exact each inner rfl

theorem inferProperties_ends {owner name : Text} {properties : List (Property Fragment)}
    (described : ∀ property ∈ properties, IsRemark property.place.description)
    (each : ∀ property ∈ properties, ∀ inner, property.fragment = some inner →
      ∀ position, InfersWell strict (infer follow position inner)) :
    (inferProperties follow owner name properties).Ends
      (fun result => (∀ property ∈ result.1, IsRemark property.description) ∧
        ∀ entity ∈ result.2, entity.Described)
      (Failure.Expected strict) := by
  induction properties with
  | nil =>
      rw [inferProperties]
      exact ⟨List.forall_mem_nil _, List.forall_mem_nil _⟩
  | cons property rest ih =>
      rw [inferProperties_cons]
      apply Traced.Ends.bind (inferOptional_ends fun inner found =>
        each property List.mem_cons_self inner found _)
      intro inference own
      apply Traced.Ends.bind
        (ih (List.forall_mem_cons.mp described).2 (List.forall_mem_cons.mp each).2)
      rintro ⟨others, entities⟩ ⟨othersDescribed, entitiesDescribed⟩
      apply Traced.Ends.pure
      constructor
      · exact List.forall_mem_cons.mpr ⟨described property List.mem_cons_self, othersDescribed⟩
      · exact List.forall_mem_append.mpr ⟨own, entitiesDescribed⟩

theorem infer_settled_ends {position : Position} {fragment : Fragment}
    {result : Except Failure TypeDescriptor} (typed : fragment.WellTyped)
    (settles : settled? position fragment = some result) :
    InfersWell strict (infer follow position fragment) := by
  rw [InfersWell, infer_of_settled follow settles]
  apply Traced.Ends.bind (Traced.Ends.ofExcept (fun _ _ => trivial) ?_)
  · intro type _
    exact List.forall_mem_nil _
  · rintro failure rfl
    exact settled?_expected typed settles

/-- A well-typed fragment meets none but expected failures. -/
theorem infer_ends (follows : FollowsTexts strict follow) {fragment : Fragment}
    (typed : fragment.WellTyped) (position : Position) :
    InfersWell strict (infer follow position fragment) := by
  induction typed generalizing position with
  | primitive name => exact infer_settled_ends (.primitive name) rfl
  | typeList names => exact infer_settled_ends (.typeList names) rfl
  | enumeration values =>
      rw [infer]
      intro entity member
      rw [List.mem_singleton.mp member]
      exact enumTypeOf_described values _ true
  | reference target =>
      rw [infer]
      apply Traced.Ends.bind (follows _ _ _)
      exact fun _ _ => List.forall_mem_nil _
  | @array place items inner ih =>
      cases items with
      | none => exact infer_settled_ends (.array inner) rfl
      | some items =>
          rw [infer]
          exact Traced.Ends.bind (ih items rfl _) fun inference described => described
  | @object shape own described types ih =>
      cases declared : shape.declared with
      | false =>
          have settles : settled? position (.object shape) = some
              (ofUndeclared position.owner shape.additional (!position.required)) := by
            simp [settled?, declared]
          exact infer_settled_ends (.object own described types) settles
      | true =>
          rw [infer_declared follow declared]
          apply Traced.Ends.bind (inferProperties_ends described ih)
          rintro ⟨resolved, entities⟩ ⟨resolvedDescribed, entitiesDescribed⟩
          exact List.forall_mem_cons.mpr ⟨.record own resolvedDescribed, entitiesDescribed⟩

/-! ## Contributions -/

/-- What a definition adds to a model is described by texts. -/
structure Contribution.Described (part : Contribution) : Prop where
  entities : ∀ entity ∈ part.entities, entity.Described
  requests : ∀ request ∈ part.requests, request.Described
  events : ∀ event ∈ part.events, IsRemark event.description

theorem inferPayload?_ends (follows : FollowsTexts strict follow) {owner anchor property : Text}
    {payload : Option (Property Fragment)}
    (typed : ∀ inner, payload = some inner → inner.WellTyped) :
    (inferPayload? follow owner anchor property payload).Ends
      (fun inference => ∀ entity ∈ payloadEntities inference, entity.Described)
      (Failure.Expected strict) := by
  cases payload with
  | none => exact List.forall_mem_nil _
  | some payload =>
      apply Traced.Ends.bind (inferOptional_ends fun inner found =>
        infer_ends follows ((typed payload rfl).fragment inner found) _)
      exact fun inference described => described

/-- The inline object of a well-typed composition. -/
theorem inlineObject_succeeds {extension : Option Fragment}
    (inline : ∀ fragment, extension = some fragment →
      ∃ shape, fragment = .object shape ∧ fragment.WellTyped) :
    (inlineObject extension).Succeeds fun shape =>
      ∀ property ∈ ownProperties shape, property.WellTyped := by
  cases extension with
  | none => exact List.forall_mem_nil _
  | some fragment =>
      obtain ⟨shape, rfl, typed⟩ := inline fragment rfl
      exact typed.properties

theorem recordEntities_ends (follows : FollowsTexts strict follow) {name : Text}
    {shape : Option (ObjectShape Fragment)} {base : Option Text} {description : Json}
    (own : IsRemark description)
    (typed : ∀ property ∈ ownProperties shape, property.WellTyped) :
    (recordEntities follow name shape base description).Ends
      (fun entities => ∀ entity ∈ entities, entity.Described) (Failure.Expected strict) := by
  rw [recordEntities]
  apply Traced.Ends.bind (inferProperties_ends
    (fun property member => (typed property member).described)
    (fun property member inner found => infer_ends follows
      ((typed property member).fragment inner found)))
  rintro ⟨resolved, entities⟩ ⟨resolvedDescribed, entitiesDescribed⟩
  exact List.forall_mem_cons.mpr ⟨.record own resolvedDescribed, entitiesDescribed⟩

/-- The body of a well-typed response is a well-typed property. -/
theorem responseBody?_wellTyped {response : Definition} (typed : response.WellTyped) :
    ∀ payload, responseBody? response = some payload → payload.WellTyped := by
  obtain ⟨body, present, bodyTyped⟩ := typed
  intro payload found
  rw [responseBody?, present] at found
  cases bodyTyped with
  | enumeration values => cases found
  | @object shape inner =>
      exact inner.properties payload (List.mem_of_find?_eq_some found)
  | @composition place base extension described referring inline =>
      cases extension with
      | none => cases found
      | some fragment =>
          obtain ⟨shape, rfl, inner⟩ := inline fragment rfl
          exact inner.properties payload (List.mem_of_find?_eq_some found)

theorem pairRequest_ends (follows : FollowsTexts strict follow) {definitions : List Definition}
    (responses : ∀ definition ∈ definitions, definition.WellTyped) {name : Text} {place : Place}
    {shape : Option (ObjectShape Fragment)} (own : IsRemark place.description)
    (typed : ∀ property ∈ ownProperties shape, property.WellTyped) :
    (pairRequest follow definitions name place shape).Ends
      (fun result => result.1.Described ∧ ∀ entity ∈ result.2, entity.Described)
      (Failure.Expected strict) := by
  simp only [pairRequest]
  split
  · exact Traced.Ends.fail trivial
  · split
    · exact Traced.Ends.fail trivial
    · rename_i response answered
      obtain ⟨responseName, _, found⟩ := Option.bind_eq_some_iff.mp answered
      have responseTyped := responses response (List.mem_of_find?_eq_some found)
      apply Traced.Ends.bind (inferPayload?_ends follows fun payload sought =>
        typed payload (List.mem_of_find?_eq_some sought))
      intro arguments argumentsDescribed
      apply Traced.Ends.bind (inferPayload?_ends follows (responseBody?_wellTyped responseTyped))
      intro body bodyDescribed
      apply Traced.Ends.pure
      refine ⟨⟨own, ?_, Option.some_ne_none _⟩, ?_⟩
      · obtain ⟨fragment, present, bodyTyped⟩ := responseTyped
        rw [present]
        exact bodyTyped.described
      · exact List.forall_mem_append.mpr ⟨argumentsDescribed, bodyDescribed⟩

theorem pairEvent_ends (follows : FollowsTexts strict follow) {name : Text} {place : Place}
    {shape : Option (ObjectShape Fragment)} (own : IsRemark place.description)
    (typed : ∀ property ∈ ownProperties shape, property.WellTyped) :
    (pairEvent follow name place shape).Ends
      (fun result => IsRemark result.1.description ∧ ∀ entity ∈ result.2, entity.Described)
      (Failure.Expected strict) := by
  simp only [pairEvent]
  split
  · exact Traced.Ends.fail trivial
  · apply Traced.Ends.bind (inferPayload?_ends follows fun payload sought =>
      typed payload (List.mem_of_find?_eq_some sought))
    exact fun body bodyDescribed => Traced.Ends.pure ⟨own, bodyDescribed⟩

theorem followBase_ends (follows : FollowsTexts strict follow) {owner : Text}
    {base : Option Fragment} (referring : ∀ fragment, base = some fragment →
      ∃ place target, fragment = .reference ⟨place, .text target⟩) :
    (followBase follow owner base).Ends (fun _ => True) (Failure.Expected strict) := by
  cases base with
  | none => exact trivial
  | some fragment =>
      obtain ⟨place, target, rfl⟩ := referring fragment rfl
      exact Traced.Ends.bind (follows _ _ _) fun _ _ => trivial

/-- Under listed names it is always decided whether an option holds a name. -/
theorem optionHolds_succeeds {names : List Text} {option : Option Json}
    (listed : option = some (.array (names.map .text))) (name : Option Text) :
    (optionHolds option name).Succeeds fun _ => True := by
  cases name with
  | none =>
      rw [optionHolds_none listed]
      exact trivial
  | some name =>
      rw [optionHolds_some listed]
      exact trivial

/-- A well-typed definition meets none but expected failures. -/
theorem contribution_ends (follows : FollowsTexts strict follow) {config : Config}
    {ignored reserved : List Text} (listed : config.ListsNames ignored reserved)
    {definitions : List Definition}
    (typed : ∀ definition ∈ definitions, definition.WellTyped) {definition : Definition}
    (own : definition.WellTyped) :
    (contribution config follow definitions definition).Ends Contribution.Described
      (Failure.Expected strict) := by
  obtain ⟨body, present, bodyTyped⟩ := own
  simp only [contribution, present]
  cases bodyTyped with
  | enumeration values =>
      apply Traced.Ends.pure
      refine ⟨?_, List.forall_mem_nil _, List.forall_mem_nil _⟩
      intro entity member
      rw [List.mem_singleton.mp member]
      exact enumTypeOf_described values _ false
  | @object shape inner =>
      have described : IsRemark _ := (Fragment.BodyTyped.object inner).described
      have properties : ∀ property ∈ ownProperties (some shape), property.WellTyped :=
        inner.properties
      apply Traced.Ends.bind (recordEntities_ends follows described properties)
      exact fun entities each =>
        Traced.Ends.pure ⟨each, List.forall_mem_nil _, List.forall_mem_nil _⟩
  | composition described referring inline =>
      apply Traced.Ends.bind (followBase_ends follows referring)
      intro baseName _
      split
      · apply Traced.Ends.bind (inlineObject_succeeds inline).ends
        intro shape properties
        apply Traced.Ends.bind (pairRequest_ends follows typed described properties)
        rintro ⟨request, entities⟩ ⟨requestDescribed, entitiesDescribed⟩
        apply Traced.Ends.pure
        refine ⟨entitiesDescribed, ?_, List.forall_mem_nil _⟩
        intro other member
        rw [List.mem_singleton.mp member]
        exact requestDescribed
      · split
        · apply Traced.Ends.bind (inlineObject_succeeds inline).ends
          intro shape properties
          apply Traced.Ends.bind (pairEvent_ends follows described properties)
          rintro ⟨event, entities⟩ ⟨eventDescribed, entitiesDescribed⟩
          apply Traced.Ends.pure
          refine ⟨entitiesDescribed, List.forall_mem_nil _, ?_⟩
          intro other member
          rw [List.mem_singleton.mp member]
          exact eventDescribed
        · apply Traced.Ends.bind (optionHolds_succeeds listed.reserved baseName).ends
          intro held _
          split
          · exact Traced.Ends.pure
              ⟨List.forall_mem_nil _, List.forall_mem_nil _, List.forall_mem_nil _⟩
          · apply Traced.Ends.bind (inlineObject_succeeds inline).ends
            intro shape properties
            apply Traced.Ends.bind (recordEntities_ends follows described properties)
            exact fun entities each =>
              Traced.Ends.pure ⟨each, List.forall_mem_nil _, List.forall_mem_nil _⟩

/-! ## Models -/

theorem recordOrigins_expected {definition : Definition} {origins : Origins}
    {entities : List Entity} {failure : Failure}
    (refused : recordOrigins definition origins entities = .error failure) :
    failure.Expected strict := by
  induction entities generalizing origins with
  | nil => cases refused
  | cons entity entities ih =>
      rw [recordOrigins] at refused
      split at refused
      · cases refused
        trivial
      · exact ih refused

theorem contributions_ends (follows : FollowsTexts strict follow) {config : Config}
    {ignored reserved : List Text} (listed : config.ListsNames ignored reserved)
    {all : List Definition} (typed : ∀ definition ∈ all, definition.WellTyped)
    (origins : Origins) {rest : List Definition}
    (among : ∀ definition ∈ rest, definition.WellTyped) :
    (contributions config follow all origins rest).Ends
      (fun parts => ∀ part ∈ parts, part.Described) (Failure.Expected strict) := by
  induction rest generalizing origins with
  | nil => exact List.forall_mem_nil _
  | cons definition rest ih =>
      have later := fun recorded => ih recorded (List.forall_mem_cons.mp among).2
      rw [contributions, isSkipped_of_listsNames listed, pure_bind]
      split
      · exact later origins
      · apply Traced.Ends.bind
          (contribution_ends follows listed typed (among definition List.mem_cons_self))
        intro first described
        apply Traced.Ends.bind (Traced.Ends.ofExcept (fun _ _ => trivial)
          fun failure refused => recordOrigins_expected refused)
        intro recorded _
        apply Traced.Ends.bind (later recorded)
        intro others each
        apply Traced.Ends.pure
        exact List.forall_mem_cons.mpr ⟨described, each⟩

end

section

variable {config : Config} {ignored reserved : List Text}

theorem followsTexts_followIn (config : Config) (definitions : List Definition) :
    FollowsTexts config.strictReferences.truthy (followIn config definitions) := by
  intro owner place reference
  exact Reference.follow_ends

/-- Well-typed definitions lead to a renderable model or to an expected failure. -/
theorem analyze_ends (listed : config.ListsNames ignored reserved)
    {definitions : List Definition}
    (typed : ∀ definition ∈ definitions, definition.WellTyped) (version : Json) :
    (analyze config definitions version).Ends Model.Renderable
      (Failure.Expected config.strictReferences.truthy) := by
  have described : (analyze config definitions version).Ends
      (fun model => (∀ entity ∈ model.entities, entity.Described) ∧
        (∀ request ∈ model.requests, request.Described) ∧
        ∀ event ∈ model.events, IsRemark event.description)
      (Failure.Expected config.strictReferences.truthy) := by
    apply Traced.Ends.bind (contributions_ends (followsTexts_followIn config definitions)
      listed typed [] typed)
    intro parts each
    apply Traced.Ends.note_bind
    apply Traced.Ends.pure
    refine ⟨?_, ?_, ?_⟩
    · intro entity member
      obtain ⟨part, inside, own⟩ := List.mem_flatMap.mp member
      exact (each part inside).entities entity own
    · intro request member
      obtain ⟨part, inside, own⟩ := List.mem_flatMap.mp member
      exact (each part inside).requests request own
    · intro event member
      obtain ⟨part, inside, own⟩ := List.mem_flatMap.mp member
      exact (each part inside).events event own
  apply described.self.mono
  · rintro model ⟨analyzed, entities, requests, events⟩
    exact ⟨descriptors_of_analyze (preserved_wellFormed _) analyzed, entities, requests, events⟩
  · exact fun _ expected => expected

/-- A well-shaped document leads to a renderable model or to an expected failure. -/
theorem resolve_ends {marker : Text} (marked : config.openEnumMarker = .text marker)
    (listed : config.ListsNames ignored reserved) {document : Json}
    (shaped : Schema.DocumentShaped marker document) (version : Json) :
    (resolve config document version).Ends Model.Renderable
      (Failure.Expected config.strictReferences.truthy) := by
  rw [resolve, marked]
  apply Traced.Ends.bind (Schema.read_ends _ shaped)
  exact fun definitions typed => analyze_ends listed typed version

end

end ProtocolBindings.Resolve
