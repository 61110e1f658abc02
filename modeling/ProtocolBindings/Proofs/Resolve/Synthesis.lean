import ProtocolBindings.Proofs.Resolve.Analysis
import ProtocolBindings.Proofs.Resolve.EntityNames
import ProtocolBindings.Proofs.Resolve.TypeForms

/-!
# Synthesized entities and their descriptors

Types and entities balance when each synthesized entity is named as often as it
is present.  Every inference balances, because each of its steps hands on the
entities of its parts once, and hence so do contributions and models.  In a model
no name repeats, so that each synthesized entity is named exactly once.
-/

namespace ProtocolBindings.Resolve

open Model
open Schema (Definition Fragment ObjectShape Property)
open Reference (Follow)

/-- How often types name a synthesized entity, at any depth. -/
def timesNamed (coinage : Coinage) (types : List TypeDescriptor) : Nat :=
  ((types.flatMap TypeDescriptor.parts).flatMap TypeDescriptor.coinages).count coinage

/-- How often a synthesized entity is among some entities. -/
def timesPresent (coinage : Coinage) (entities : List Entity) : Nat :=
  (entities.filterMap Entity.coinage?).count coinage

/-- The types, together with those of the entities, name each synthesized entity as
often as it is present. -/
def Balanced (types : List TypeDescriptor) (entities : List Entity) : Prop :=
  ∀ coinage, timesNamed coinage types +
    timesNamed coinage (entities.flatMap Entity.descriptors) =
      timesPresent coinage entities

@[simp] theorem timesNamed_nil (coinage : Coinage) : timesNamed coinage [] = 0 := rfl

@[simp] theorem timesNamed_append (coinage : Coinage) (left right : List TypeDescriptor) :
    timesNamed coinage (left ++ right) = timesNamed coinage left + timesNamed coinage right := by
  simp [timesNamed]

theorem timesNamed_flatMap_append {α : Type} (coinage : Coinage) (items : List α)
    (left right : α → List TypeDescriptor) :
    timesNamed coinage (items.flatMap fun item => left item ++ right item) =
      timesNamed coinage (items.flatMap left) + timesNamed coinage (items.flatMap right) := by
  induction items with
  | nil => rfl
  | cons item items ih =>
      simp only [List.flatMap_cons, timesNamed_append, ih]
      omega

@[simp] theorem timesPresent_nil (coinage : Coinage) : timesPresent coinage [] = 0 := rfl

@[simp] theorem timesPresent_append (coinage : Coinage) (left right : List Entity) :
    timesPresent coinage (left ++ right) =
      timesPresent coinage left + timesPresent coinage right := by
  simp [timesPresent]

theorem timesPresent_cons (coinage : Coinage) (entity : Entity) (entities : List Entity) :
    timesPresent coinage (entity :: entities) =
      timesPresent coinage [entity] + timesPresent coinage entities :=
  timesPresent_append coinage [entity] entities

/-- A type none of whose parts names a synthesized entity counts for nothing. -/
theorem timesNamed_eq_zero {type : TypeDescriptor}
    (unnamed : ∀ part ∈ type.parts, part.coinages = []) (coinage : Coinage) :
    timesNamed coinage [type] = 0 := by
  have nothing : (type.parts.flatMap TypeDescriptor.coinages) = [] :=
    List.flatMap_eq_nil_iff.mpr unnamed
  simp [timesNamed, nothing]

/-- An array names what its element names. -/
theorem timesNamed_arrayOf (coinage : Coinage) (element : TypeDescriptor) (nullable : Bool) :
    timesNamed coinage [.arrayOf element nullable] = timesNamed coinage [element] := by
  simp [timesNamed]

namespace Balanced

theorem nil : Balanced [] [] := fun _ => rfl

theorem append {types others : List TypeDescriptor} {entities more : List Entity}
    (left : Balanced types entities) (right : Balanced others more) :
    Balanced (types ++ others) (entities ++ more) := by
  intro coinage
  have leftCount := left coinage
  have rightCount := right coinage
  simp only [timesNamed_append, List.flatMap_append, timesPresent_append]
  omega

/-- What balances part by part balances as a whole. -/
theorem flatMap {α : Type} {items : List α} {types : α → List TypeDescriptor}
    {entities : α → List Entity} (each : ∀ item ∈ items, Balanced (types item) (entities item)) :
    Balanced (items.flatMap types) (items.flatMap entities) := by
  induction items with
  | nil => exact nil
  | cons item items ih =>
      rw [List.flatMap_cons, List.flatMap_cons]
      exact (each item List.mem_cons_self).append
        (ih (List.forall_mem_cons.mp each).2)

end Balanced

/-! ## Inferences -/

section

variable {name : Text} {base : Option Text} {description : Json}
variable {properties : List (Property Fragment)} {inferenceOf : Property Fragment → Inference}

/-- The properties of a record and their entities balance with the record left out. -/
private theorem recordBlock_count {synthesized : Bool}
    (each : ∀ property ∈ properties,
      Balanced [(inferenceOf property).type] (inferenceOf property).entities)
    (coinage : Coinage) :
    timesNamed coinage ((recordBlock name base description synthesized properties
        inferenceOf).flatMap Entity.descriptors) =
      timesPresent coinage (properties.flatMap fun property =>
        (inferenceOf property).entities) := by
  have whole := Balanced.flatMap each coinage
  rw [← List.map_eq_flatMap] at whole
  have types : Entity.descriptors (.record {
      name := name
      base := base
      properties := properties.map fun property =>
        resolvedProperty property (inferenceOf property)
      description := description
      synthesized := synthesized }) = properties.map fun property =>
        (inferenceOf property).type := by
    simp only [Entity.descriptors, List.map_map]
    rfl
  rw [recordBlock, List.flatMap_cons, types, timesNamed_append]
  exact whole

theorem recordBlock_balanced
    (each : ∀ property ∈ properties,
      Balanced [(inferenceOf property).type] (inferenceOf property).entities) :
    Balanced [] (recordBlock name base description false properties inferenceOf) := by
  intro coinage
  rw [recordBlock_count each, recordBlock, timesPresent_cons]
  simp [timesPresent, Entity.coinage?]

theorem recordBlock_balanced_of_synthesized (nullable : Bool)
    (each : ∀ property ∈ properties,
      Balanced [(inferenceOf property).type] (inferenceOf property).entities) :
    Balanced [.anonymousObject name nullable]
      (recordBlock name base description true properties inferenceOf) := by
  intro coinage
  rw [recordBlock_count each, recordBlock, timesPresent_cons]
  simp [timesPresent, timesNamed, Entity.coinage?]

end

theorem absentInference_balanced (position : Position) :
    Balanced [(absentInference position).type] (absentInference position).entities := by
  intro coinage
  rw [absentInference, timesNamed_eq_zero fun part member =>
    ((Settled.any _).unnamed part member).2]
  rfl

/-- An inference balances. -/
theorem Inferred.balanced {follow : Follow} {position : Position} {fragment : Fragment}
    {inference : Inference} (inferred : Inferred follow position fragment inference) :
    Balanced [inference.type] inference.entities := by
  induction inferred with
  | settled settles =>
      intro coinage
      rw [timesNamed_eq_zero fun part member =>
        ((settled_of_settled? settles).unnamed part member).2]
      rfl
  | reference followed =>
      intro coinage
      rw [timesNamed_eq_zero (by simp)]
      rfl
  | array inner ih =>
      intro coinage
      rw [timesNamed_arrayOf]
      exact ih coinage
  | @enumeration position values =>
      intro coinage
      cases shape : values.isOpen <;>
        simp [ofEnumeration, enumTypeOf, shape, timesNamed, timesPresent, Entity.descriptors,
          Entity.coinage?]
  | record declared absent present ih =>
      apply recordBlock_balanced_of_synthesized
      intro property member
      cases found : property.fragment with
      | none =>
          rw [absent property member found]
          exact absentInference_balanced _
      | some fragment => exact ih property member fragment found

theorem InferredOptional.balanced {follow : Follow} {position : Position}
    {fragment : Option Fragment} {inference : Inference}
    (inferred : InferredOptional follow position fragment inference) :
    Balanced [inference.type] inference.entities := by
  cases fragment with
  | none =>
      cases inferred
      exact absentInference_balanced position
  | some fragment => exact Inferred.balanced inferred

theorem InferredPayload.balanced {follow : Follow} {owner anchor property : Text}
    {payload : Option (Property Fragment)} {inference : Option Inference}
    (inferred : InferredPayload follow owner anchor property payload inference) :
    Balanced (inference.map Inference.type).toList (payloadEntities inference) := by
  cases inferred with
  | absent => exact Balanced.nil
  | present inferred => exact inferred.balanced

/-! ## Contributions and models -/

/-- Free-form arguments name what the arguments name. -/
theorem timesNamed_withFreeForm {type : TypeDescriptor} (formed : type.WellFormed)
    (coinage : Coinage) :
    timesNamed coinage [withFreeForm type] = timesNamed coinage [type] := by
  unfold withFreeForm
  split
  · rename_i free
    rw [Bool.and_eq_true, decide_eq_true_eq] at free
    rw [formed.eq_reference free.1, timesNamed_eq_zero (by simp), timesNamed_eq_zero (by simp)]
  · rfl

private theorem arguments_balanced {follow : Follow} {owner anchor property : Text}
    {payload : Option (Property Fragment)} {inference : Option Inference}
    (inferred : InferredPayload follow owner anchor property payload inference) :
    Balanced (inference.map fun inner => withFreeForm inner.type).toList
      (payloadEntities inference) := by
  cases inferred with
  | absent => exact Balanced.nil
  | present inferred =>
      intro coinage
      have formed := (inferred.all (preserved_wellFormed follow)).type
      rw [Option.map_some, Option.toList_some, timesNamed_withFreeForm formed]
      exact inferred.balanced coinage

private theorem returns_balanced {follow : Follow} {owner anchor property : Text}
    {payload : Option (Property Fragment)} {inference : Option Inference}
    (inferred : InferredPayload follow owner anchor property payload inference) :
    Balanced [(inference.map Inference.type).getD .void] (payloadEntities inference) := by
  cases inferred with
  | absent =>
      intro coinage
      rw [Option.map_none, Option.getD_none, timesNamed_eq_zero (by simp)]
      rfl
  | present inferred => exact inferred.balanced

/-- A contribution balances. -/
theorem Contributed.balanced {config : Config} {follow : Follow}
    {definitions : List Definition} {definition : Definition} {part : Contribution}
    (contributed : Contributed config follow definitions definition part) :
    Balanced (part.requests.flatMap Request.descriptors ++
      part.events.flatMap Event.descriptors) part.entities := by
  cases contributed with
  | request formed based inline fixed answered argued returned =>
      have both := (arguments_balanced argued).append (returns_balanced returned)
      simpa [Request.descriptors, pairedRequest] using both
  | event formed based inline fixed carried =>
      simpa [Event.descriptors] using carried.balanced
  | consumed formed based notRequest notEvent reserved => exact Balanced.nil
  | extended formed based notRequest notEvent free inline inferred =>
      exact recordBlock_balanced fun property member => (inferred property member).balanced
  | enumeration formed =>
      intro coinage
      simp [timesPresent, enumTypeOf, Entity.descriptors, Entity.coinage?]
  | record formed inferred =>
      exact recordBlock_balanced fun property member => (inferred property member).balanced

/-- The descriptors of a model name each synthesized entity as often as it is present. -/
theorem timesNamed_descriptors {config : Config} {definitions : List Definition}
    {version : Json} {model : Model}
    (analyzed : (analyze config definitions version).outcome = .ok model)
    (coinage : Coinage) :
    timesNamed coinage model.descriptors = timesPresent coinage model.entities := by
  obtain ⟨_, contributionOf, each, _, rfl⟩ := analyze_ok_iff.mp analyzed
  have whole := Balanced.flatMap (fun definition member => (each definition member).balanced)
    coinage
  rw [timesNamed_flatMap_append] at whole
  simp only [assembled, descriptors, timesNamed_append, List.flatMap_map,
    List.flatMap_assoc] at whole ⊢
  omega

/-- A coinage is counted once for each occurrence that names it, or more often. -/
private theorem countP_le_count_flatMap {α : Type} (coinagesOf : α → List Coinage)
    (coinage : Coinage) (items : List α) :
    (items.countP fun item => decide (coinage ∈ coinagesOf item)) ≤
      (items.flatMap coinagesOf).count coinage := by
  induction items with
  | nil => exact Nat.le_refl 0
  | cons item items ih =>
      rw [List.countP_cons, List.flatMap_cons, List.count_append]
      by_cases member : coinage ∈ coinagesOf item
      · have positive := List.count_pos_iff.mpr member
        simp only [member, decide_true, if_true]
        omega
      · simp only [member, decide_false, Bool.false_eq_true, if_false]
        omega

/-- What descriptors and synthesized entities owe each other in a model: a descriptor
names an entity of its own kind, and no entity is without a descriptor or shared. -/
structure SynthesizedOnce (model : Model) : Prop where
  inlineEnum : ∀ type ∈ model.occurrences, type.kind = .inlineEnum →
    ∃ content, model.entity? type.name = some (.enumType content) ∧
      content.synthesized = true ∧ content.isOpen = false
  anonymousObject : ∀ type ∈ model.occurrences, type.kind = .anonymousObject →
    ∃ content, model.entity? type.name = some (.record content) ∧ content.synthesized = true
  openEnum : ∀ type ∈ model.occurrences, ∀ name, type.openEnum = some name →
    ∃ content, model.entity? name = some (.enumType content) ∧
      content.synthesized = true ∧ content.isOpen = true
  once : ∀ entity ∈ model.entities, entity.synthesized = true →
    (model.occurrences.filter fun type => type.names entity.name).length = 1

section

variable {config : Config} {definitions : List Definition} {version : Json} {model : Model}

/-- What a descriptor names is an entity of the model. -/
theorem entity?_of_coinage
    (analyzed : (analyze config definitions version).outcome = .ok model)
    {type : TypeDescriptor} (occurs : type ∈ model.occurrences) {coinage : Coinage}
    (named : coinage ∈ type.coinages) :
    ∃ entity, model.entity? coinage.name = some entity ∧ entity.coinage? = some coinage := by
  have inside : coinage ∈ model.occurrences.flatMap TypeDescriptor.coinages :=
    List.mem_flatMap.mpr ⟨type, occurs, named⟩
  have counted := timesNamed_descriptors analyzed coinage
  have positive : 0 < timesPresent coinage model.entities := by
    rw [← counted]
    exact List.count_pos_iff.mpr inside
  obtain ⟨entity, member, coined⟩ := List.mem_filterMap.mp (List.count_pos_iff.mp positive)
  refine ⟨entity, ?_, coined⟩
  rw [entity.name_of_coinage? coined]
  exact entity?_name_of_nodup (names_nodup_of_analyze analyzed) member

/-- A synthesized entity is present once. -/
private theorem timesPresent_eq_one {entities : List Entity}
    (distinct : (entities.map Entity.name).Nodup) {entity : Entity}
    (member : entity ∈ entities) {coinage : Coinage} (coined : entity.coinage? = some coinage) :
    timesPresent coinage entities = 1 := by
  induction entities with
  | nil => cases member
  | cons first rest ih =>
      rw [List.map_cons, List.nodup_cons] at distinct
      obtain ⟨fresh, distinctRest⟩ := distinct
      rw [timesPresent_cons]
      rcases List.mem_cons.mp member with rfl | member
      · have absent : timesPresent coinage rest = 0 := by
          rw [timesPresent, List.count_eq_zero]
          intro present
          obtain ⟨other, otherMember, otherCoined⟩ := List.mem_filterMap.mp present
          apply fresh
          rw [← entity.name_of_coinage? coined, other.name_of_coinage? otherCoined]
          exact List.mem_map_of_mem otherMember
        simp [timesPresent, coined] at absent ⊢
        exact absent
      · have different : first.coinage? ≠ some coinage := by
          intro same
          apply fresh
          rw [← first.name_of_coinage? same, entity.name_of_coinage? coined]
          exact List.mem_map_of_mem member
        have absent : timesPresent coinage [first] = 0 := by
          rw [timesPresent, List.count_eq_zero]
          intro present
          obtain ⟨other, otherMember, otherCoined⟩ := List.mem_filterMap.mp present
          rw [List.mem_singleton.mp otherMember] at otherCoined
          exact different otherCoined
        rw [absent, ih distinctRest member]

/-- Every occurrence of an inline enumeration, an inline record or suggested values
names a synthesized entity of that kind, and every synthesized entity of a model is
named by exactly one occurrence. -/
theorem synthesizedOnce_of_analyze
    (analyzed : (analyze config definitions version).outcome = .ok model) :
    SynthesizedOnce model where
  inlineEnum := by
    intro type occurs kind
    have named : Coinage.closedEnum type.name ∈ type.coinages := by
      simp [TypeDescriptor.coinages, kind]
    obtain ⟨entity, found, coined⟩ := entity?_of_coinage analyzed occurs named
    obtain ⟨content, rfl, synthesized, closed⟩ := entity.enumType_of_closedEnum coined
    exact ⟨content, found, synthesized, closed⟩
  anonymousObject := by
    intro type occurs kind
    have named : Coinage.record type.name ∈ type.coinages := by
      simp [TypeDescriptor.coinages, kind]
    obtain ⟨entity, found, coined⟩ := entity?_of_coinage analyzed occurs named
    obtain ⟨content, rfl, synthesized⟩ := entity.record_of_coinage coined
    exact ⟨content, found, synthesized⟩
  openEnum := by
    intro type occurs name suggested
    have named : Coinage.openEnum name ∈ type.coinages := by
      simp [TypeDescriptor.coinages, suggested]
    obtain ⟨entity, found, coined⟩ := entity?_of_coinage analyzed occurs named
    obtain ⟨content, rfl, synthesized, isOpen⟩ := entity.enumType_of_openEnum coined
    exact ⟨content, found, synthesized, isOpen⟩
  once := by
    intro entity member synthesized
    obtain ⟨coinage, coined⟩ := entity.exists_coinage synthesized
    have distinct := names_nodup_of_analyze analyzed
    have same : ∀ type ∈ model.occurrences,
        (type.names entity.name = true ↔ decide (coinage ∈ type.coinages) = true) := by
      intro type occurs
      rw [TypeDescriptor.names_iff, decide_eq_true_eq]
      constructor
      · rintro ⟨other, named, sameName⟩
        obtain ⟨found, lookup, otherCoined⟩ := entity?_of_coinage analyzed occurs named
        rw [sameName, entity?_name_of_nodup distinct member, Option.some.injEq] at lookup
        rw [← lookup, coined, Option.some.injEq] at otherCoined
        rwa [otherCoined]
      · intro named
        exact ⟨coinage, named, entity.name_of_coinage? coined⟩
    -- The entity is present once, so that its coinage occurs once, and in one occurrence.
    have total : (model.occurrences.flatMap TypeDescriptor.coinages).count coinage = 1 := by
      rw [← timesPresent_eq_one distinct member coined, ← timesNamed_descriptors analyzed]
      rfl
    rw [← List.countP_eq_length_filter, List.countP_congr same]
    have bounded := countP_le_count_flatMap TypeDescriptor.coinages coinage model.occurrences
    have positive :
        0 < model.occurrences.countP fun type => decide (coinage ∈ type.coinages) := by
      rw [List.countP_pos_iff]
      obtain ⟨type, occurs, named⟩ := List.mem_flatMap.mp
        (List.count_pos_iff.mp (total ▸ Nat.one_pos))
      exact ⟨type, occurs, decide_eq_true named⟩
    omega

end

/-- A request with an inline record of arguments, which hold a closed and an open
enumeration, and its response without a body. -/
def searchDefinitions : List Definition :=
  let place : Schema.Place := ⟨"#/definitions/Search", .null⟩
  let listed (isOpen : Bool) (values : List Text) : Fragment :=
    .enumeration ⟨place, values, values.map fun _ => .null, isOpen⟩
  let holding (properties : List (Property Fragment)) : ObjectShape Fragment :=
    ⟨place, properties, true, .unstated⟩
  let arguments := holding [
    ⟨place, "mode", true, some (listed false ["exact", "fuzzy"])⟩,
    ⟨place, "tags", false, some (.array place (some (listed true ["todo"])))⟩]
  [⟨"SearchRequest", place, some (.composition place
      (some (.reference ⟨place, .text "#/definitions/Request"⟩))
      (some (.object (holding [
        ⟨place, "command", true, some (listed false ["search"])⟩,
        ⟨place, "arguments", true, some (.object arguments)⟩]))))⟩,
    ⟨"SearchResponse", place, some (.composition place
      (some (.reference ⟨place, .text "#/definitions/Response"⟩)) none)⟩,
    ⟨"Request", place, some (.object (holding []))⟩,
    ⟨"Response", place, some (.object (holding []))⟩]

theorem synthesizedOnce_searchDefinitions :
    ∃ model, (analyze {} searchDefinitions .null).outcome = .ok model ∧
      model.entities.map Entity.name = ["SearchRequestArguments",
        "SearchRequestArgumentsMode", "SearchRequestArgumentsTags"] ∧
      SynthesizedOnce model := by
  have names : (analyze {} searchDefinitions .null).outcome.toOption.map
      (fun model => model.entities.map Entity.name) = some (["SearchRequestArguments",
        "SearchRequestArgumentsMode", "SearchRequestArgumentsTags"] : List Text) := by
    decide +kernel
  obtain ⟨model, ended, named⟩ := Traced.exists_ok_of_map names
  exact ⟨model, ended, named, synthesizedOnce_of_analyze ended⟩

end ProtocolBindings.Resolve
