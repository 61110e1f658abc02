import ProtocolBindings.Proofs.Resolve.Analysis
import ProtocolBindings.Proofs.Resolve.TypeForms

/-!
# Types of models

What inference preserves holds of every type of a model, except for the results of
requests without a response body, which are no values.
-/

namespace ProtocolBindings.Resolve

open Model
open Schema (Definition Fragment ObjectShape Property)
open Reference (Follow)

section

variable {follow : Follow} {holds : TypeDescriptor → Prop}

theorem withFreeForm_holds (preserved : Preserved follow holds) {type : TypeDescriptor}
    (inner : holds type) : holds (withFreeForm type) := by
  unfold withFreeForm
  split
  · exact preserved.freeForm _
  · exact inner

theorem InferredPayload.all (preserved : Preserved follow holds) {owner anchor property : Text}
    {payload : Option (Property Fragment)} {inference : Option Inference}
    (inferred : InferredPayload follow owner anchor property payload inference) :
    ∀ inner, inference = some inner → inner.All holds := by
  cases inferred with
  | absent => exact nofun
  | present inferred =>
      rintro inner ⟨⟩
      exact inferred.all preserved

theorem InferredPayload.entities_all (preserved : Preserved follow holds)
    {owner anchor property : Text} {payload : Option (Property Fragment)}
    {inference : Option Inference}
    (inferred : InferredPayload follow owner anchor property payload inference) :
    ∀ entity ∈ payloadEntities inference, ∀ type ∈ entity.descriptors, holds type := by
  cases inferred with
  | absent => exact nofun
  | present inferred => exact (inferred.all preserved).entities

theorem InferredPayload.inline {owner anchor property : Text}
    {payload : Option (Property Fragment)} {inference : Option Inference}
    (inferred : InferredPayload follow owner anchor property payload inference) :
    ∀ entity ∈ payloadEntities inference, IsInline entity := by
  cases inferred with
  | absent => exact nofun
  | present inferred => exact inferred.inline

end

/-- A property of the types of all properties, arguments, results and event bodies, except
that the result of a request may be no value. -/
structure TypesHold (holds : TypeDescriptor → Prop) (entities : List Entity)
    (requests : List Request) (events : List Event) : Prop where
  properties : ∀ entity ∈ entities, ∀ type ∈ entity.descriptors, holds type
  arguments : ∀ request ∈ requests, ∀ type ∈ request.arguments, holds type
  results : ∀ request ∈ requests, ∃ type, request.returns = some type ∧
    (holds type ∨ type = .void)
  bodies : ∀ event ∈ events, ∀ type ∈ event.body, holds type

section

variable {config : Config} {follow : Follow} {definitions : List Definition}
variable {definition : Definition} {part : Contribution} {holds : TypeDescriptor → Prop}

/-- What inference preserves holds of the types of contributions. -/
theorem Contributed.all (preserved : Preserved follow holds)
    (contributed : Contributed config follow definitions definition part) :
    TypesHold holds part.entities part.requests part.events := by
  cases contributed with
  | @request place base extension shape command response arguments body formed based inline
      fixed answered argued returned =>
      refine ⟨?_, List.forall_mem_singleton.mpr ?_, List.forall_mem_singleton.mpr ?_, nofun⟩
      · exact List.forall_mem_append.mpr
          ⟨argued.entities_all preserved, returned.entities_all preserved⟩
      · intro type member
        obtain ⟨inner, present, rfl⟩ := Option.map_eq_some_iff.mp member
        exact withFreeForm_holds preserved (argued.all preserved inner present).type
      · refine ⟨_, rfl, ?_⟩
        cases body with
        | none => exact .inr rfl
        | some inner => exact .inl (returned.all preserved inner rfl).type
  | event formed based inline fixed carried =>
      refine ⟨carried.entities_all preserved, nofun, nofun, List.forall_mem_singleton.mpr ?_⟩
      intro type member
      obtain ⟨inner, present, rfl⟩ := Option.map_eq_some_iff.mp member
      exact (carried.all preserved inner present).type
  | consumed formed based notRequest notEvent reserved => exact ⟨nofun, nofun, nofun, nofun⟩
  | extended formed based notRequest notEvent free inline inferred =>
      refine ⟨recordBlock_all ?_, nofun, nofun, nofun⟩
      exact fun property named => (inferred property named).all preserved
  | enumeration formed => exact ⟨List.forall_mem_singleton.mpr nofun, nofun, nofun, nofun⟩
  | record formed inferred =>
      refine ⟨recordBlock_all ?_, nofun, nofun, nofun⟩
      exact fun property named => (inferred property named).all preserved

/-- What inference preserves holds of the types of models. -/
theorem typesHold_of_analyze {version : Json} {model : Model}
    (preserved : Preserved (followIn config definitions) holds)
    (analyzed : (analyze config definitions version).outcome = .ok model) :
    TypesHold holds model.entities model.requests model.events := by
  obtain ⟨_, contributionOf, each, _, rfl⟩ := analyze_ok_iff.mp analyzed
  have all := fun definition named => (each definition named).all preserved
  simp only [assembled, List.flatMap_map]
  refine ⟨?_, ?_, ?_, ?_⟩
  · intro entity member
    obtain ⟨definition, named, own⟩ := List.mem_flatMap.mp member
    exact (all definition named).properties entity own
  · intro request member
    obtain ⟨definition, named, own⟩ := List.mem_flatMap.mp member
    exact (all definition named).arguments request own
  · intro request member
    obtain ⟨definition, named, own⟩ := List.mem_flatMap.mp member
    exact (all definition named).results request own
  · intro event member
    obtain ⟨definition, named, own⟩ := List.mem_flatMap.mp member
    exact (all definition named).bodies event own

theorem descriptors_of_analyze {version : Json} {model : Model}
    (preserved : Preserved (followIn config definitions) holds)
    (analyzed : (analyze config definitions version).outcome = .ok model) :
    ∀ type ∈ model.descriptors, holds type ∨ type = .void := by
  have all := typesHold_of_analyze preserved analyzed
  intro type member
  simp only [descriptors, Request.descriptors, Event.descriptors, List.mem_append,
    List.mem_flatMap, Option.mem_toList] at member
  rcases member with (⟨entity, among, own⟩ | ⟨request, among, own | own⟩) | ⟨event, among, own⟩
  · exact .inl (all.properties entity among type own)
  · exact .inl (all.arguments request among type own)
  · obtain ⟨result, returned, known⟩ := all.results request among
    rw [Option.some.inj (own.symm.trans returned)]
    exact known
  · exact .inl (all.bodies event among type own)

end

end ProtocolBindings.Resolve
