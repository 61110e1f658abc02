import ProtocolBindings.Proofs.Model.Occurrence
import ProtocolBindings.Proofs.Resolve.Inference
import ProtocolBindings.Proofs.Resolve.SettledTypes

/-!
# Forms of inferred types

A settled type is a scalar, a union, any value, an array of such values, or a
mapping of texts, and names nothing.  Hence every inferred type is well-formed,
and so are the types of all properties of the entities that come with it.
-/

namespace ProtocolBindings.Resolve

open Model
open Schema (Additional Enumeration Fragment ObjectShape Property)
open Reference (Follow)

/-- The types of fragments without references and without types of their own. -/
inductive Settled : TypeDescriptor → Prop where
  | any (nullable : Bool) : Settled (TypeDescriptor.any.withNullable nullable)
  | scalar (type : PrimitiveType) (nullable : Bool) : Settled (.scalar type nullable)
  | array (nullable : Bool) : Settled (.arrayOf .any nullable)
  | texts (nullable : Bool) : Settled (.mapOf (.scalar .string false) nullable)
  | union {members : List PrimitiveType} (nullable : Bool) (distinct : members.Nodup)
      (several : 2 ≤ members.length) (bounded : members.length ≤ 3) :
      Settled (.unionOf members nullable)

namespace Settled

theorem wellFormed {type : TypeDescriptor} (settled : Settled type) : type.WellFormed := by
  cases settled with
  | any nullable => exact .any nullable
  | scalar type nullable => exact .scalar type nullable
  | array nullable => exact .arrayOf nullable (.any false)
  | texts nullable => exact .mapOf nullable (.scalar .string false)
  | union nullable distinct several bounded => exact .unionOf nullable distinct several bounded

/-- No part of a settled type names anything. -/
theorem unnamed {type : TypeDescriptor} (settled : Settled type) :
    ∀ part ∈ type.parts, part.kind ≠ .reference ∧ part.coinages = [] := by
  cases settled with
  | any | scalar | array | texts => simp
  | union nullable distinct several bounded =>
      rw [TypeDescriptor.parts_unionOf]
      intro part member
      rcases List.mem_cons.mp member with rfl | inside
      · simp
      · obtain ⟨scalar, _, rfl⟩ := List.mem_map.mp inside
        simp

end Settled

/-! ## Type lists -/

theorem collectScalars_nodup {table : MemberTable} {collected scalars : List PrimitiveType}
    {types : List Json} (distinct : collected.Nodup)
    (succeeded : collectScalars table collected types = .ok (some scalars)) :
    scalars.Nodup := by
  induction types generalizing collected with
  | nil =>
      rw [collectScalars] at succeeded
      cases succeeded
      exact distinct
  | cons value types ih =>
      cases value with
      | text name =>
          rw [collectScalars] at succeeded
          by_cases null : name = "null"
          · rw [if_pos null] at succeeded
            exact ih distinct succeeded
          · rw [if_neg null] at succeeded
            cases found : table.scalar? name with
            | none => simp [found] at succeeded
            | some scalar =>
                simp only [found] at succeeded
                refine ih ?_ succeeded
                by_cases known : scalar ∈ collected
                · rwa [if_pos known]
                · rw [if_neg known]
                  rw [List.nodup_append]
                  refine ⟨distinct, List.pairwise_singleton _ _, ?_⟩
                  intro old oldMember new newMember same
                  rw [List.mem_singleton] at newMember
                  exact known (newMember ▸ same ▸ oldMember)
      | null | bool _ | integer _ | number _ | array _ | object _ =>
          simp [collectScalars, Json.hashable] at succeeded

theorem scalarsType_settled {scalars : List PrimitiveType} (distinct : scalars.Nodup)
    (few : scalars.length ≤ maxUnionArity) (nullable : Bool) :
    Settled (scalarsType nullable scalars) := by
  match scalars with
  | [] => exact .any nullable
  | [scalar] => exact .scalar scalar nullable
  | first :: second :: rest => exact .union nullable distinct (by simp) few

/-- A type list stands for a settled type. -/
theorem collapse_settled {types : List Json} {required : Bool} {owner path : Text}
    {type : TypeDescriptor}
    (succeeded : collapse standardMembers types required owner path = .ok type) :
    Settled type := by
  obtain rfl | ⟨scalars, collected, typed⟩ := collapse_ok succeeded
  · exact .any _
  · obtain ⟨few, rfl⟩ := ofScalars_eq_ok_iff.mp typed
    exact scalarsType_settled (collectScalars_nodup List.nodup_nil collected) few _

theorem ofTypeName_settled {typeName : Json} {nullable : Bool} {type : TypeDescriptor}
    (succeeded : ofTypeName typeName nullable = .ok type) : Settled type := by
  rw [type_of_ofTypeName succeeded]
  cases typeName with
  | text name =>
      rw [namedType]
      cases scalarOf? name with
      | none => exact .any _
      | some scalar => exact .scalar scalar _
  | _ => exact .any _

theorem ofUndeclared_settled {owner : Text} {additional : Additional Fragment}
    {nullable : Bool} {type : TypeDescriptor}
    (succeeded : ofUndeclared owner additional nullable = .ok type) : Settled type := by
  rw [type_of_ofUndeclared succeeded]
  cases additional with
  | unstated => exact .any nullable
  | anything => exact .texts nullable
  | described fragment => exact .texts nullable

/-! ## Inferences -/

theorem settled_of_settled? {position : Position} {fragment : Fragment}
    {type : TypeDescriptor} (settles : settled? position fragment = some (.ok type)) :
    Settled type := by
  cases fragment with
  | typeList place types => exact collapse_settled (Option.some.inj settles)
  | primitive place typeName =>
      have mapped := Option.some.inj settles
      cases named : ofTypeName typeName (!position.required) with
      | error misuse => rw [named] at mapped; cases mapped
      | ok found => rw [named] at mapped; cases mapped; exact ofTypeName_settled named
  | object shape =>
      rw [settled?] at settles
      split at settles
      · cases settles
      · exact ofUndeclared_settled (Option.some.inj settles)
  | array place items =>
      cases items with
      | none => cases settles; exact .array _
      | some items => cases settles
  | composition place base extension => cases settles; exact .any _
  | reference link => cases settles
  | enumeration values => cases settles

/-- A property of the type of an inference and of all types of its entities. -/
structure Inference.All (holds : TypeDescriptor → Prop) (inference : Inference) : Prop where
  type : holds inference.type
  entities : ∀ entity ∈ inference.entities, ∀ type ∈ entity.descriptors, holds type

/-- A property that every step of inference preserves.  Free-form arguments take the
place of references. -/
structure Preserved (follow : Follow) (holds : TypeDescriptor → Prop) : Prop where
  settled : ∀ {type}, Settled type → holds type
  reference : ∀ {owner link target} nullable,
    (follow owner link).outcome = .ok target → holds (.reference target nullable)
  arrayOf : ∀ {element} nullable, holds element → holds (.arrayOf element nullable)
  suggestedText : ∀ name nullable, holds (.suggestedText name nullable)
  inlineEnum : ∀ name nullable, holds (.inlineEnum name nullable)
  anonymousObject : ∀ name nullable, holds (.anonymousObject name nullable)
  freeForm : ∀ nullable, holds (.mapOf .any nullable)

theorem preserved_wellFormed (follow : Follow) :
    Preserved follow TypeDescriptor.WellFormed where
  settled := Settled.wellFormed
  reference nullable _ := .reference _ nullable
  arrayOf nullable inner := .arrayOf nullable inner
  suggestedText := .suggestedText
  inlineEnum := .inlineEnum
  anonymousObject := .anonymousObject
  freeForm nullable := .mapOf nullable (.any false)

section

variable {follow : Follow} {holds : TypeDescriptor → Prop}

theorem recordBlock_all {name : Text} {base : Option Text} {description : Json}
    {synthesized : Bool} {properties : List (Property Fragment)}
    {inferenceOf : Property Fragment → Inference}
    (each : ∀ property ∈ properties, (inferenceOf property).All holds) :
    ∀ entity ∈ recordBlock name base description synthesized properties inferenceOf,
      ∀ type ∈ entity.descriptors, holds type := by
  intro entity entityMember type typeMember
  rcases List.mem_cons.mp entityMember with rfl | inner
  · simp only [Entity.descriptors, List.map_map, List.mem_map] at typeMember
    obtain ⟨property, member, rfl⟩ := typeMember
    exact (each property member).type
  · obtain ⟨property, member, inside⟩ := List.mem_flatMap.mp inner
    exact (each property member).entities entity inside type typeMember

theorem absentInference_all (preserved : Preserved follow holds) (position : Position) :
    (absentInference position).All holds :=
  ⟨preserved.settled (.any _), nofun⟩

/-- What every step preserves holds of a whole inference. -/
theorem Inferred.all (preserved : Preserved follow holds) {position : Position}
    {fragment : Fragment} {inference : Inference}
    (inferred : Inferred follow position fragment inference) : inference.All holds := by
  induction inferred with
  | settled settles => exact ⟨preserved.settled (settled_of_settled? settles), nofun⟩
  | reference followed => exact ⟨preserved.reference _ followed, nofun⟩
  | array inner ih => exact ⟨preserved.arrayOf _ ih.type, ih.entities⟩
  | @enumeration position values =>
      refine ⟨?_, ?_⟩
      · rw [ofEnumeration]
        cases values.isOpen with
        | true => exact preserved.suggestedText _ _
        | false => exact preserved.inlineEnum _ _
      · intro entity member
        rw [List.mem_singleton.mp member]
        exact nofun
  | record declared absent present ih =>
      refine ⟨preserved.anonymousObject _ _, recordBlock_all ?_⟩
      intro property member
      cases found : property.fragment with
      | none =>
          rw [absent property member found]
          exact absentInference_all preserved _
      | some fragment => exact ih property member fragment found

theorem InferredOptional.all (preserved : Preserved follow holds) {position : Position}
    {fragment : Option Fragment} {inference : Inference}
    (inferred : InferredOptional follow position fragment inference) :
    inference.All holds := by
  cases fragment with
  | none =>
      cases inferred
      exact absentInference_all preserved position
  | some fragment => exact Inferred.all preserved inferred

end

/-- An entity of a fragment: it is synthesized and has no base. -/
structure IsInline (entity : Entity) : Prop where
  synthesized : entity.synthesized = true
  base : ∀ content, entity = .record content → content.base = none

/-- The entities that come with an inference are inline. -/
theorem Inferred.inline {follow : Follow} {position : Position} {fragment : Fragment}
    {inference : Inference} (inferred : Inferred follow position fragment inference) :
    ∀ entity ∈ inference.entities, IsInline entity := by
  induction inferred with
  | settled settles => exact nofun
  | reference followed => exact nofun
  | array inner ih => exact ih
  | enumeration =>
      intro entity member
      rw [List.mem_singleton.mp member]
      exact ⟨rfl, nofun⟩
  | record declared absent present ih =>
      intro entity entityMember
      rcases List.mem_cons.mp entityMember with rfl | inner
      · refine ⟨rfl, ?_⟩
        rintro content ⟨⟩
        rfl
      · obtain ⟨property, member, inside⟩ := List.mem_flatMap.mp inner
        cases found : property.fragment with
        | none =>
            rw [absent property member found] at inside
            cases inside
        | some fragment => exact ih property member fragment found entity inside

theorem InferredOptional.inline {follow : Follow} {position : Position}
    {fragment : Option Fragment} {inference : Inference}
    (inferred : InferredOptional follow position fragment inference) :
    ∀ entity ∈ inference.entities, IsInline entity := by
  cases fragment with
  | none =>
      cases inferred
      exact nofun
  | some fragment => exact Inferred.inline inferred

/-- In the block of a declared record all entities but the first are inline. -/
theorem InferredProperties.inline {follow : Follow} {owner name : Text}
    {properties : List (Property Fragment)} {inferenceOf : Property Fragment → Inference}
    (inferred : InferredProperties follow owner name properties inferenceOf) :
    ∀ entity ∈ properties.flatMap fun property => (inferenceOf property).entities,
      IsInline entity := by
  intro entity member
  obtain ⟨property, named, inside⟩ := List.mem_flatMap.mp member
  exact (inferred property named).inline entity inside

end ProtocolBindings.Resolve
