import ProtocolBindings.Proofs.Traced
import ProtocolBindings.Proofs.Schema.Fragment
import ProtocolBindings.Resolve.Inference

/-!
# Relational specification of inference

`Inferred` describes the successful runs of `infer` without its monad.  The
inferences of the properties of a record are a function of the property, since
the position of a property depends on nothing else.  `infer_ok_iff` states that
the relation and the function agree.
-/

namespace ProtocolBindings.Resolve

open Model
open Schema (Additional Enumeration Fragment ObjectShape Property)
open Reference (Follow)

/-- The position of a property of a record. -/
def propertyPosition (owner name : Text) (property : Property Fragment) : Position where
  owner := owner
  anchor := name
  property := property.name
  required := property.required

/-- The definition to which an inline record at a position belongs. -/
def Position.recordOwner (position : Position) : Text :=
  if position.owner.isEmpty then position.entityName else position.owner

/-- The inference of a fragment that is missing. -/
def absentInference (position : Position) : Inference :=
  { type := TypeDescriptor.any.withNullable (!position.required) }

/-- A property with an inference of its type. -/
def resolvedProperty (property : Property Fragment) (inference : Inference) :
    RecordProperty where
  name := property.name
  type := inference.type
  required := property.required
  description := property.place.description

/-- A record with inferences of its properties, followed by their entities. -/
def recordBlock (name : Text) (base : Option Text) (description : Json) (synthesized : Bool)
    (properties : List (Property Fragment))
    (inferenceOf : Property Fragment → Inference) : List Entity :=
  .record {
    name := name
    base := base
    properties := properties.map fun property =>
      resolvedProperty property (inferenceOf property)
    description := description
    synthesized := synthesized } ::
  properties.flatMap fun property => (inferenceOf property).entities

/-- The inference of an inline record from those of its properties. -/
def recordInference (position : Position) (shape : ObjectShape Fragment)
    (inferenceOf : Property Fragment → Inference) : Inference where
  type := .anonymousObject position.entityName (!position.required)
  entities := recordBlock position.entityName none shape.place.description true
    shape.properties inferenceOf

/-- The properties of an inline object that may be missing. -/
def ownProperties (shape : Option (ObjectShape Fragment)) : List (Property Fragment) :=
  (shape.map ObjectShape.properties).getD []

/-- The type of a fragment that neither refers to anything nor contains a fragment
with a type of its own. -/
def settled? (position : Position) : Fragment → Option (Except Failure TypeDescriptor)
  | .typeList place types =>
      some (collapse standardMembers types position.required position.owner place.path)
  | .primitive _ typeName =>
      some ((ofTypeName typeName (!position.required)).mapError .misuse)
  | .object shape =>
      if shape.declared then none
      else some (ofUndeclared position.owner shape.additional (!position.required))
  | .array _ none => some (.ok (.arrayOf .any (!position.required)))
  | .composition _ _ _ => some (.ok (TypeDescriptor.any.withNullable (!position.required)))
  | _ => none

/-- The successful inferences of fragments. -/
inductive Inferred (follow : Follow) : Position → Fragment → Inference → Prop where
  | settled {position : Position} {fragment : Fragment} {type : TypeDescriptor}
      (settles : settled? position fragment = some (.ok type)) :
      Inferred follow position fragment { type := type }
  | reference {position : Position} {link : Schema.Link} {target : Text}
      (followed : (follow position.owner link).outcome = .ok target) :
      Inferred follow position (.reference link)
        { type := .reference target (!position.required) }
  | array {position : Position} {place : Schema.Place} {items : Fragment}
      {inner : Inference} (inferred : Inferred follow position.ofItems items inner) :
      Inferred follow position (.array place (some items))
        { type := .arrayOf inner.type (!position.required), entities := inner.entities }
  | enumeration {position : Position} {values : Enumeration} :
      Inferred follow position (.enumeration values) (ofEnumeration position values)
  | record {position : Position} {shape : ObjectShape Fragment}
      {inferenceOf : Property Fragment → Inference} (declared : shape.declared = true)
      (absent : ∀ property ∈ shape.properties, property.fragment = none →
        inferenceOf property = absentInference
          (propertyPosition position.recordOwner position.entityName property))
      (present : ∀ property ∈ shape.properties, ∀ fragment,
        property.fragment = some fragment →
          Inferred follow (propertyPosition position.recordOwner position.entityName property)
            fragment (inferenceOf property)) :
      Inferred follow position (.object shape) (recordInference position shape inferenceOf)

/-- The successful inferences of fragments that may be missing. -/
def InferredOptional (follow : Follow) (position : Position) :
    Option Fragment → Inference → Prop
  | none, inference => inference = absentInference position
  | some fragment, inference => Inferred follow position fragment inference

/-- The successful inferences of the properties of a record. -/
def InferredProperties (follow : Follow) (owner name : Text)
    (properties : List (Property Fragment)) (inferenceOf : Property Fragment → Inference) :
    Prop :=
  ∀ property ∈ properties, InferredOptional follow (propertyPosition owner name property)
    property.fragment (inferenceOf property)

/-- A settled type is the whole inference. -/
theorem infer_of_settled (follow : Follow) {position : Position} {fragment : Fragment}
    {result : Except Failure TypeDescriptor}
    (settles : settled? position fragment = some result) :
    infer follow position fragment = do
      let type ← Traced.ofExcept result
      return { type := type } := by
  cases fragment with
  | typeList place types =>
      cases settles
      rw [infer]
  | primitive place typeName =>
      cases settles
      rw [infer]
      rfl
  | object shape =>
      obtain ⟨place, properties, declared, additional⟩ := shape
      cases declared with
      | false =>
          cases settles
          rw [infer, inferObject]
          rfl
      | true => cases settles
  | array place items =>
      cases items with
      | none =>
          cases settles
          rw [infer]
          rfl
      | some items => cases settles
  | composition place base extension =>
      cases settles
      rw [infer]
      rfl
  | reference link => cases settles
  | enumeration values => cases settles

theorem inferProperties_cons (follow : Follow) (owner name : Text)
    (property : Property Fragment) (rest : List (Property Fragment)) :
    inferProperties follow owner name (property :: rest) = do
      let inference ←
        inferOptional follow (propertyPosition owner name property) property.fragment
      let (others, entities) ← inferProperties follow owner name rest
      return (resolvedProperty property inference :: others,
        inference.entities ++ entities) := by
  cases property
  rw [inferProperties]
  rfl

/-- A declared inline object is a record of its properties. -/
theorem infer_declared (follow : Follow) {position : Position} {shape : ObjectShape Fragment}
    (declared : shape.declared = true) :
    infer follow position (.object shape) = do
      let (resolved, entities) ←
        inferProperties follow position.recordOwner position.entityName shape.properties
      return {
        type := .anonymousObject position.entityName (!position.required)
        entities := .record {
            name := position.entityName
            base := none
            properties := resolved
            description := shape.place.description
            synthesized := true } :: entities } := by
  obtain ⟨place, properties, declares, additional⟩ := shape
  cases declared
  rw [infer, inferObject]
  rfl

/-- What is inferred for a property, if anything is. -/
private def propertyInference (follow : Follow) (owner name : Text)
    (property : Property Fragment) : Inference :=
  (inferOptional follow (propertyPosition owner name property) property.fragment).valueOr
    (absentInference (propertyPosition owner name property))

private theorem inferProperties_of_ok {follow : Follow} {owner name : Text}
    {properties : List (Property Fragment)} {resolved : List RecordProperty}
    {entities : List Entity}
    (ended : (inferProperties follow owner name properties).outcome =
      .ok (resolved, entities)) :
    (∀ property ∈ properties,
      (inferOptional follow (propertyPosition owner name property)
        property.fragment).outcome = .ok (propertyInference follow owner name property)) ∧
    resolved = properties.map (fun property =>
      resolvedProperty property (propertyInference follow owner name property)) ∧
    entities = properties.flatMap fun property =>
      (propertyInference follow owner name property).entities := by
  induction properties generalizing resolved entities with
  | nil =>
      rw [inferProperties] at ended
      cases ended
      simp
  | cons property rest ih =>
      rw [inferProperties_cons, Traced.outcome_bind_eq_ok_iff] at ended
      obtain ⟨inference, first, ended⟩ := ended
      rw [Traced.outcome_bind_eq_ok_iff] at ended
      obtain ⟨⟨others, more⟩, later, ended⟩ := ended
      cases ended
      obtain ⟨each, rfl, rfl⟩ := ih later
      have same : propertyInference follow owner name property = inference :=
        Traced.valueOr_of_ok _ first
      refine ⟨?_, ?_, ?_⟩
      · intro other member
        rcases List.mem_cons.mp member with rfl | member
        · rw [same]
          exact first
        · exact each other member
      · rw [List.map_cons, same]
      · rw [List.flatMap_cons, same]

private theorem inferProperties_ok {follow : Follow} {owner name : Text}
    {properties : List (Property Fragment)}
    {inferenceOf : Property Fragment → Inference}
    (each : ∀ property ∈ properties,
      (inferOptional follow (propertyPosition owner name property)
        property.fragment).outcome = .ok (inferenceOf property)) :
    (inferProperties follow owner name properties).outcome =
      .ok (properties.map (fun property => resolvedProperty property (inferenceOf property)),
        properties.flatMap fun property => (inferenceOf property).entities) := by
  induction properties with
  | nil =>
      rw [inferProperties]
      rfl
  | cons property rest ih =>
      have first := each property List.mem_cons_self
      have later := ih (List.forall_mem_cons.mp each).2
      rw [inferProperties_cons, Traced.outcome_bind_eq_ok_iff]
      refine ⟨_, first, ?_⟩
      rw [Traced.outcome_bind_eq_ok_iff]
      exact ⟨_, later, rfl⟩

/-- The inferences of properties are those of each of them. -/
private theorem inferProperties_ok_iff {follow : Follow} {owner name : Text}
    {properties : List (Property Fragment)} {resolved : List RecordProperty}
    {entities : List Entity}
    (agree : ∀ property ∈ properties, ∀ inference,
      (inferOptional follow (propertyPosition owner name property)
        property.fragment).outcome = .ok inference ↔
      InferredOptional follow (propertyPosition owner name property)
        property.fragment inference) :
    (inferProperties follow owner name properties).outcome = .ok (resolved, entities) ↔
      ∃ inferenceOf, InferredProperties follow owner name properties inferenceOf ∧
        resolved = properties.map (fun property =>
          resolvedProperty property (inferenceOf property)) ∧
        entities = properties.flatMap fun property => (inferenceOf property).entities := by
  constructor
  · intro ended
    obtain ⟨each, sameResolved, sameEntities⟩ := inferProperties_of_ok ended
    refine ⟨_, ?_, sameResolved, sameEntities⟩
    intro property member
    exact (agree property member _).mp (each property member)
  · rintro ⟨inferenceOf, inferred, rfl, rfl⟩
    apply inferProperties_ok
    intro property member
    exact (agree property member _).mpr (inferred property member)

private theorem infer_ok_iff_of_settled {follow : Follow} {position : Position}
    {fragment : Fragment} {inference : Inference} {result : Except Failure TypeDescriptor}
    (settles : settled? position fragment = some result) :
    (infer follow position fragment).outcome = .ok inference ↔
      Inferred follow position fragment inference := by
  rw [infer_of_settled follow settles, Traced.outcome_bind_eq_ok_iff]
  constructor
  · rintro ⟨type, succeeded, ended⟩
    cases ended
    rw [Traced.outcome_ofExcept] at succeeded
    rw [succeeded] at settles
    exact .settled settles
  · intro inferred
    cases inferred with
    | settled same =>
        rw [settles] at same
        cases same
        exact ⟨_, rfl, rfl⟩
    | reference followed => cases settles
    | array inner => cases settles
    | enumeration => cases settles
    | record declared absent present => simp [settled?, declared] at settles

private theorem inferOptional_ok_iff_of_each {follow : Follow} {position : Position}
    {fragment : Option Fragment} {inference : Inference}
    (agree : ∀ inner, fragment = some inner →
      ((infer follow position inner).outcome = .ok inference ↔
        Inferred follow position inner inference)) :
    (inferOptional follow position fragment).outcome = .ok inference ↔
      InferredOptional follow position fragment inference := by
  cases fragment with
  | none =>
      rw [inferOptional, InferredOptional, Traced.outcome_pure, Except.ok.injEq]
      exact eq_comm
  | some inner =>
      rw [inferOptional]
      exact agree inner rfl

/-- A fragment is inferred exactly as the relation says. -/
theorem infer_ok_iff {follow : Follow} {position : Position} {fragment : Fragment}
    {inference : Inference} :
    (infer follow position fragment).outcome = .ok inference ↔
      Inferred follow position fragment inference := by
  -- The position changes from a fragment to the fragments inside it.
  induction fragment using Fragment.induct generalizing position inference with
  | primitive place typeName => exact infer_ok_iff_of_settled rfl
  | typeList place types => exact infer_ok_iff_of_settled rfl
  | bareArray place => exact infer_ok_iff_of_settled rfl
  | composition place base extension => exact infer_ok_iff_of_settled rfl
  | enumeration values =>
      rw [infer, Traced.outcome_pure, Except.ok.injEq]
      constructor
      · rintro rfl
        exact .enumeration
      · intro inferred
        cases inferred with
        | settled settles => cases settles
        | enumeration => rfl
  | reference link =>
      rw [infer, Traced.outcome_bind_eq_ok_iff]
      constructor
      · rintro ⟨target, followed, ended⟩
        cases ended
        exact .reference followed
      · intro inferred
        cases inferred with
        | settled settles => cases settles
        | reference followed => exact ⟨_, followed, rfl⟩
  | array place items ih =>
      rw [infer, Traced.outcome_bind_eq_ok_iff]
      constructor
      · rintro ⟨inner, ended, result⟩
        cases result
        exact .array (ih.mp ended)
      · intro inferred
        cases inferred with
        | settled settles => cases settles
        | array inner => exact ⟨_, ih.mpr inner, rfl⟩
  | object shape properties _ =>
      by_cases declared : shape.declared = true
      · have agree : ∀ property ∈ shape.properties, ∀ inner,
            (inferOptional follow (propertyPosition position.recordOwner position.entityName
              property) property.fragment).outcome = .ok inner ↔
            InferredOptional follow (propertyPosition position.recordOwner
              position.entityName property) property.fragment inner := by
          intro property member inner
          exact inferOptional_ok_iff_of_each fun fragment found =>
            properties property member fragment found
        rw [infer_declared follow declared, Traced.outcome_bind_eq_ok_iff]
        constructor
        · rintro ⟨⟨resolved, entities⟩, ended, result⟩
          obtain ⟨inferenceOf, inferred, rfl, rfl⟩ := (inferProperties_ok_iff agree).mp ended
          cases result
          show Inferred follow position (.object shape)
            (recordInference position shape inferenceOf)
          refine .record declared ?_ ?_
          · intro property member missing
            have known := inferred property member
            rwa [missing] at known
          · intro property member fragment found
            have known := inferred property member
            rwa [found] at known
        · intro inferred
          cases inferred with
          | settled settles => simp [settled?, declared] at settles
          | @record _ _ inferenceOf _ absent present =>
              refine ⟨⟨_, _⟩, (inferProperties_ok_iff agree).mpr ⟨inferenceOf, ?_, rfl, rfl⟩, rfl⟩
              intro property member
              cases found : property.fragment with
              | none => exact absent property member found
              | some fragment => exact present property member fragment found
      · exact infer_ok_iff_of_settled (by rw [settled?, if_neg declared])

theorem inferOptional_ok_iff {follow : Follow} {position : Position}
    {fragment : Option Fragment} {inference : Inference} :
    (inferOptional follow position fragment).outcome = .ok inference ↔
      InferredOptional follow position fragment inference :=
  inferOptional_ok_iff_of_each fun _ _ => infer_ok_iff

/-- The entities of a declared record are the record and those of its properties. -/
theorem recordEntities_ok_iff {follow : Follow} {name : Text}
    {shape : Option (ObjectShape Fragment)} {base : Option Text} {description : Json}
    {entities : List Entity} :
    (recordEntities follow name shape base description).outcome = .ok entities ↔
      ∃ inferenceOf, InferredProperties follow name name (ownProperties shape) inferenceOf ∧
        entities =
          recordBlock name base description false (ownProperties shape) inferenceOf := by
  rw [recordEntities, Traced.outcome_bind_eq_ok_iff]
  constructor
  · rintro ⟨⟨resolved, more⟩, ended, result⟩
    obtain ⟨inferenceOf, inferred, rfl, rfl⟩ :=
      (inferProperties_ok_iff fun _ _ _ => inferOptional_ok_iff).mp ended
    cases result
    exact ⟨inferenceOf, inferred, rfl⟩
  · rintro ⟨inferenceOf, inferred, rfl⟩
    exact ⟨⟨_, _⟩, (inferProperties_ok_iff fun _ _ _ => inferOptional_ok_iff).mpr
      ⟨inferenceOf, inferred, rfl, rfl⟩, rfl⟩

end ProtocolBindings.Resolve
