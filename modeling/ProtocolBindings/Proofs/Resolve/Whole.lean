import ProtocolBindings.Proofs.Model.Whole
import ProtocolBindings.Proofs.Reference.Division
import ProtocolBindings.Proofs.Resolve.ModelTypes
import ProtocolBindings.Proofs.Schema.Whole

/-!
# Resolution of whole schemas

Names are synthesized from names and from parts of references, so that whole definitions
have a whole model.
-/

namespace ProtocolBindings

open Text (Whole)

namespace Reference

open Traced (Ends Yields)

/-- The name in a reference is a part of it. -/
theorem subset_of_name? {reference name : Text} (named : name? reference = some name) :
    name ⊆ reference := by
  obtain ⟨area, divides⟩ := dividesLast_of_name? named
  rw [divides.whole]
  refine List.subset_append_of_subset_right _ (List.subset_append_of_subset_right _ ?_)
  exact List.subset_append_right _ _

theorem follow_yields (known : Text → Bool) (strict : Bool) (owner : Text) {link : Schema.Link}
    (whole : link.target.Whole) : (follow known strict owner link).Yields Whole := by
  rw [follow]
  split
  · rename_i reference written
    rw [written, Json.whole_text_iff] at whole
    split
    · rename_i name named
      split
      · exact whole.of_subset (subset_of_name? named)
      · exact Yields.fail _
    · split
      · exact Yields.fail _
      · exact Ends.note_bind whole
  · exact Yields.fail _

end Reference

namespace Resolve

open Model
open Schema (Definition Enumeration Fragment ObjectShape Place Property definition?)
open Reference (Follow)

/-! ## Inferences -/

/-- Links with whole targets are followed to whole names. -/
def FollowsWhole (follow : Follow) : Prop :=
  ∀ owner link, link.target.Whole → (follow owner link).Yields Whole

theorem Settled.whole {type : TypeDescriptor} (settled : Settled type) : type.Whole := by
  cases settled with
  | any nullable => exact TypeDescriptor.whole_any nullable
  | scalar type nullable => exact TypeDescriptor.whole_scalar type nullable
  | array nullable => exact TypeDescriptor.whole_arrayOf (TypeDescriptor.whole_any false) nullable
  | texts nullable =>
      exact TypeDescriptor.whole_mapOf (TypeDescriptor.whole_scalar .string false) nullable
  | union nullable distinct several bounded => exact TypeDescriptor.whole_unionOf _ nullable

/-- An inference with a whole type and whole entities. -/
structure Inference.Whole (inference : Inference) : Prop where
  type : inference.type.Whole
  entities : ∀ entity ∈ inference.entities, entity.Whole

theorem enumTypeOf_whole {values : Enumeration} (whole : values.Whole) {name : Text}
    (named : name.Whole) (synthesized : Bool) : (enumTypeOf name values synthesized).Whole := by
  refine ⟨named, whole.described, fun member inside => ?_⟩
  rw [enumTypeOf, ← List.map_uncurry_zip_eq_zipWith] at inside
  obtain ⟨⟨value, description⟩, paired, rfl⟩ := List.mem_map.mp inside
  exact whole.descriptions description (List.of_mem_zip paired).2

theorem absentInference_whole (position : Position) : (absentInference position).Whole :=
  ⟨TypeDescriptor.whole_any _, nofun⟩

theorem entityName_whole {anchor property owner : Text} {required : Bool} (outer : anchor.Whole)
    (own : property.Whole) : (Position.mk owner anchor property required).entityName.Whole := by
  rw [Position.entityName]
  split
  · exact outer
  · exact Naming.whole_synthesized outer own

theorem recordBlock_whole {name : Text} {base : Option Text} {description : Json}
    {synthesized : Bool} {properties : List (Property Fragment)}
    {inferenceOf : Property Fragment → Inference} (named : name.Whole)
    (based : ∀ text ∈ base, text.Whole) (described : description.Whole)
    (whole : ∀ property ∈ properties, property.Whole)
    (each : ∀ property ∈ properties, (inferenceOf property).Whole) :
    ∀ entity ∈ recordBlock name base description synthesized properties inferenceOf,
      entity.Whole := by
  refine List.forall_mem_cons.mpr ⟨⟨named, based, ?_, described, ?_⟩, ?_⟩
  · exact List.forall_mem_map.mpr fun property member => (each property member).type
  · exact List.forall_mem_map.mpr fun property member => (whole property member).described
  · exact List.forall_mem_flatMap.mpr fun property member => (each property member).entities

section

variable {follow : Follow}

/-- The inference of a whole fragment at a position with a whole name. -/
theorem Inferred.whole (follows : FollowsWhole follow) {position : Position}
    {fragment : Fragment} {inference : Inference}
    (inferred : Inferred follow position fragment inference)
    (named : position.entityName.Whole) (whole : fragment.Whole) : inference.Whole := by
  -- The name must vary in the induction: that of a property is synthesized from its record's.
  induction inferred with
  | settled settles => exact ⟨(settled_of_settled? settles).whole, List.forall_mem_nil _⟩
  | @reference position link target followed =>
      cases whole with
      | reference described targeted =>
          have known := (follows position.owner link targeted).of_ok followed
          exact ⟨TypeDescriptor.whole_reference known _, List.forall_mem_nil _⟩
  | array inferred ih =>
      cases whole with
      | array described inner =>
          have items := ih named (inner _ rfl)
          exact ⟨TypeDescriptor.whole_arrayOf items.type _, items.entities⟩
  | @enumeration position values =>
      cases whole with
      | enumeration whole =>
          refine ⟨?_, List.forall_mem_singleton.mpr (enumTypeOf_whole whole named true)⟩
          rw [ofEnumeration]
          cases values.isOpen with
          | true => exact TypeDescriptor.whole_suggestedText named _
          | false => exact TypeDescriptor.whole_inlineEnum named _
  | @record position shape inferenceOf declared absent present ih =>
      obtain ⟨described, properties⟩ := Schema.whole_object_iff.mp whole
      refine ⟨TypeDescriptor.whole_anonymousObject named _,
        recordBlock_whole named (by rintro _ ⟨⟩) described properties fun property member => ?_⟩
      cases found : property.fragment with
      | none =>
          rw [absent property member found]
          exact absentInference_whole _
      | some fragment =>
          have own := properties property member
          exact ih property member fragment found (entityName_whole named own.name)
            (own.fragment fragment found)

theorem InferredOptional.whole (follows : FollowsWhole follow) {position : Position}
    {fragment : Option Fragment} {inference : Inference}
    (inferred : InferredOptional follow position fragment inference)
    (named : position.entityName.Whole) (whole : ∀ inner, fragment = some inner → inner.Whole) :
    inference.Whole := by
  cases fragment with
  | none =>
      cases inferred
      exact absentInference_whole position
  | some fragment => exact Inferred.whole follows inferred named (whole fragment rfl)

theorem InferredProperties.whole (follows : FollowsWhole follow) {owner name : Text}
    {properties : List (Property Fragment)} {inferenceOf : Property Fragment → Inference}
    (inferred : InferredProperties follow owner name properties inferenceOf) (named : name.Whole)
    (whole : ∀ property ∈ properties, property.Whole) :
    ∀ property ∈ properties, (inferenceOf property).Whole := by
  intro property member
  have own := whole property member
  exact (inferred property member).whole follows (entityName_whole named own.name) own.fragment

theorem InferredPayload.whole (follows : FollowsWhole follow) {owner anchor property : Text}
    {payload : Option (Property Fragment)} {inference : Option Inference}
    (inferred : InferredPayload follow owner anchor property payload inference)
    (outer : anchor.Whole) (own : property.Whole)
    (whole : ∀ inner, payload = some inner → inner.Whole) :
    ∀ inner, inference = some inner → inner.Whole := by
  cases inferred with
  | absent => exact nofun
  | present inferred =>
      rintro inner ⟨⟩
      exact inferred.whole follows (entityName_whole outer own) (whole _ rfl).fragment

end

/-! ## Contributions -/

theorem payloadEntities_whole {payload : Option Inference}
    (whole : ∀ inner, payload = some inner → inner.Whole) :
    ∀ entity ∈ payloadEntities payload, entity.Whole := by
  cases payload with
  | none => exact nofun
  | some inference => exact (whole inference rfl).entities

theorem withFreeForm_whole {type : TypeDescriptor} (whole : type.Whole) :
    (withFreeForm type).Whole := by
  rw [withFreeForm]
  split
  · exact TypeDescriptor.whole_mapOf (TypeDescriptor.whole_any false) _
  · exact whole

theorem fixedValue?_whole {properties : List (Property Fragment)} {name value : Text}
    (whole : ∀ property ∈ properties, property.Whole)
    (fixed : fixedValue? properties name = some value) : value.Whole := by
  obtain ⟨property, found, fixed⟩ := Option.bind_eq_some_iff.mp fixed
  have own := whole property (List.mem_of_find?_eq_some found)
  split at fixed
  · rename_i values held
    cases own.fragment _ held with
    | enumeration listed => exact listed.values value (List.mem_of_head? fixed)
  · cases fixed

theorem ownProperties_whole {extension : Option Fragment}
    {shape : Option (ObjectShape Fragment)}
    (whole : ∀ fragment, extension = some fragment → fragment.Whole)
    (inline : (inlineObject extension).outcome = .ok shape) :
    ∀ property ∈ ownProperties shape, property.Whole := by
  cases extension with
  | none =>
      cases inline
      exact nofun
  | some fragment =>
      have known := whole fragment rfl
      cases fragment with
      | object own =>
          cases inline
          exact (Schema.whole_object_iff.mp known).2
      | _ => cases inline

theorem responseBody?_whole {response : Definition} (whole : response.Whole) :
    ∀ payload, responseBody? response = some payload → payload.Whole := by
  intro payload found
  rw [responseBody?] at found
  split at found
  · rename_i held
    cases whole.body _ held with
    | composition described referring inline =>
        exact (Schema.whole_object_iff.mp (inline _ rfl)).2 payload
          (List.mem_of_find?_eq_some found)
  · rename_i held
    exact (Schema.whole_object_iff.mp (whole.body _ held)).2 payload
      (List.mem_of_find?_eq_some found)
  · cases found

theorem followBase_whole {follow : Follow} (follows : FollowsWhole follow) {owner : Text}
    {base : Option Fragment} {name : Option Text}
    (whole : ∀ fragment, base = some fragment → fragment.Whole)
    (based : (followBase follow owner base).outcome = .ok name) :
    ∀ text ∈ name, text.Whole := by
  unfold followBase at based
  split at based
  · cases based
    exact nofun
  · rename_i link
    obtain ⟨target, followed, ended⟩ := Traced.outcome_bind_eq_ok_iff.mp based
    cases ended
    rintro text ⟨⟩
    cases whole _ rfl with
    | reference described targeted => exact (follows owner link targeted).of_ok followed
  · cases based

/-- What a definition adds to a model is whole. -/
structure Contribution.Whole (part : Contribution) : Prop where
  entities : ∀ entity ∈ part.entities, entity.Whole
  requests : ∀ request ∈ part.requests, request.Whole
  events : ∀ event ∈ part.events, event.Whole

section

variable {config : Config} {follow : Follow} {definitions : List Definition}

theorem pairedRequest_whole {name : Text} {place : Place} {command : Text}
    {response : Definition} {arguments body : Option Inference}
    (described : place.description.Whole) (commanded : command.Whole) (answered : response.Whole)
    (argued : ∀ inner, arguments = some inner → inner.Whole)
    (returned : ∀ inner, body = some inner → inner.Whole) :
    (pairedRequest name place command response arguments body).Whole := by
  refine ⟨commanded, ?_, ?_, described, ?_⟩
  · intro type member
    obtain ⟨inner, present, rfl⟩ := Option.map_eq_some_iff.mp member
    exact withFreeForm_whole (argued inner present).type
  · intro type member
    cases member
    cases body with
    | none => exact TypeDescriptor.whole_void
    | some inner => exact (returned inner rfl).type
  · show Json.Whole ((response.body.map _).getD .null)
    cases held : response.body with
    | none => exact .null
    | some fragment => exact (answered.body fragment held).described

/-- A whole definition adds what is whole, if the responses to its requests are whole. -/
theorem Contributed.whole (follows : FollowsWhole follow)
    (responses : ∀ definition ∈ definitions, definition.Whole) {definition : Definition}
    {part : Contribution} (whole : definition.Whole)
    (contributed : Contributed config follow definitions definition part) : part.Whole := by
  cases contributed with
  | @request place base extension shape command response arguments body formed based inline
      fixed answered argued returned =>
      cases whole.body _ formed with
      | composition described referring added =>
          have properties := ownProperties_whole added inline
          obtain ⟨_, _, found⟩ := Option.bind_eq_some_iff.mp answered
          have response := responses response (List.mem_of_find?_eq_some found)
          have arguments := argued.whole follows whole.name (Text.whole_ofString _)
            fun inner sought => properties inner (List.mem_of_find?_eq_some sought)
          have body := returned.whole follows response.name (Text.whole_ofString "")
            (responseBody?_whole response)
          have command := fixedValue?_whole properties fixed
          refine ⟨?_, List.forall_mem_singleton.mpr ?_, nofun⟩
          · exact List.forall_mem_append.mpr
              ⟨payloadEntities_whole arguments, payloadEntities_whole body⟩
          · exact pairedRequest_whole described command response arguments body
  | @event place base extension shape eventName body formed based inline fixed carried =>
      cases whole.body _ formed with
      | composition described referring added =>
          have properties := ownProperties_whole added inline
          have anchor : Whole (definition.name ++ "Arguments") :=
            Text.whole_append.mpr ⟨whole.name, Text.whole_ofString _⟩
          have body := carried.whole follows anchor (Text.whole_ofString "")
            fun inner sought => properties inner (List.mem_of_find?_eq_some sought)
          have named := fixedValue?_whole properties fixed
          refine ⟨payloadEntities_whole body, nofun, List.forall_mem_singleton.mpr ?_⟩
          refine ⟨named, fun type member => ?_, described⟩
          obtain ⟨inner, present, rfl⟩ := Option.map_eq_some_iff.mp member
          exact (body inner present).type
  | consumed formed based notRequest notEvent reserved => exact ⟨nofun, nofun, nofun⟩
  | extended formed based notRequest notEvent free inline inferred =>
      cases whole.body _ formed with
      | composition described referring added =>
          have properties := ownProperties_whole added inline
          have target := followBase_whole follows referring based
          have types := inferred.whole follows whole.name properties
          exact ⟨recordBlock_whole whole.name target described properties types, nofun, nofun⟩
  | enumeration formed =>
      cases whole.body _ formed with
      | enumeration listed =>
          have enumType := enumTypeOf_whole listed whole.name false
          exact ⟨List.forall_mem_singleton.mpr enumType, nofun, nofun⟩
  | record formed inferred =>
      obtain ⟨described, properties⟩ := Schema.whole_object_iff.mp (whole.body _ formed)
      have types := inferred.whole follows whole.name properties
      exact ⟨recordBlock_whole whole.name nofun described properties types, nofun, nofun⟩

/-! ## Models -/

/-- Whole definitions have a whole model. -/
theorem analyze_whole {version : Json} {model : Model}
    (whole : ∀ definition ∈ definitions, definition.Whole)
    (analyzed : (analyze config definitions version).outcome = .ok model) : model.Whole := by
  obtain ⟨_, contributionOf, each, _, rfl⟩ := analyze_ok_iff.mp analyzed
  have follows : FollowsWhole (followIn config definitions) := fun owner _ =>
    Reference.follow_yields _ _ owner
  have parts : ∀ part ∈ (kept config definitions).map contributionOf, part.Whole := by
    refine List.forall_mem_map.mpr fun definition member => ?_
    exact (each definition member).whole follows whole
      (whole definition (List.mem_filter.mp member).1)
  refine ⟨List.forall_mem_flatMap.mpr fun part member => ?_,
    List.forall_mem_flatMap.mpr fun part member => ?_,
    List.forall_mem_flatMap.mpr fun part member => ?_⟩
  · exact (parts part member).entities
  · exact (parts part member).requests
  · exact (parts part member).events

/-- A whole document has a whole model. -/
theorem resolve_whole {document version : Json} {model : Model} (whole : document.Whole)
    (resolved : (resolve config document version).outcome = .ok model) : model.Whole := by
  obtain ⟨definitions, read, analyzed⟩ := Traced.outcome_bind_eq_ok_iff.mp resolved
  exact analyze_whole ((Schema.read_yields config.openEnumMarker whole).of_ok read) analyzed

end

end Resolve

end ProtocolBindings
