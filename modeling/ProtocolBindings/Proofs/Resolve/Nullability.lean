import ProtocolBindings.Proofs.Resolve.Contribution
import ProtocolBindings.Proofs.Resolve.SettledTypes

/-!
# Nullability of inferred types

A type admits null if its fragment need not be there, or if the fragment names null itself,
as its type or among its types; and in no other case.
-/

namespace ProtocolBindings.Resolve

open Model
open Schema (Additional Fragment)
open Reference (Follow)

/-- Whether a fragment names null as a type. -/
def namesNull : Fragment → Bool
  | .typeList _ types => decide (.text "null" ∈ types)
  | .primitive _ (.text name) => name == "null"
  | _ => false

theorem collapse_nullable {table : MemberTable} {types : List Json} {required : Bool}
    {owner path : Text} {type : TypeDescriptor}
    (succeeded : collapse table types required owner path = .ok type) :
    type.nullable = (!required || decide (.text "null" ∈ types)) := by
  obtain rfl | ⟨scalars, _, typed⟩ := collapse_ok succeeded
  · rfl
  · obtain ⟨_, rfl⟩ := ofScalars_eq_ok_iff.mp typed
    exact scalarsType_nullable _ scalars

theorem namesNull_primitive (place : Schema.Place) (typeName : Json) :
    namesNull (.primitive place typeName) = isNullName typeName := by
  cases typeName <;> rfl

theorem settled?_nullable {position : Position} {fragment : Fragment} {type : TypeDescriptor}
    (settles : settled? position fragment = some (.ok type)) :
    type.nullable = (!position.required || namesNull fragment) := by
  cases fragment with
  | typeList place types => exact collapse_nullable (Option.some.inj settles)
  | primitive place typeName =>
      have mapped := Option.some.inj settles
      cases named : ofTypeName typeName (!position.required) with
      | error misuse => rw [named] at mapped; cases mapped
      | ok found =>
          rw [named] at mapped
          cases mapped
          rw [type_of_ofTypeName named, namesNull_primitive]
          rfl
  | object shape =>
      rw [settled?] at settles
      split at settles
      · cases settles
      · rw [type_of_ofUndeclared (Option.some.inj settles)]
        exact (Bool.or_false _).symm
  | array place items =>
      cases items with
      | none => cases settles; exact (Bool.or_false _).symm
      | some items => cases settles
  | composition place base extension => cases settles; exact (Bool.or_false _).symm
  | reference link => cases settles
  | enumeration values => cases settles

/-- An inferred type admits null if its fragment is not required or names null. -/
theorem Inferred.nullable {follow : Follow} {position : Position} {fragment : Fragment}
    {inference : Inference} (inferred : Inferred follow position fragment inference) :
    inference.type.nullable = (!position.required || namesNull fragment) := by
  cases inferred with
  | settled settles => exact settled?_nullable settles
  | reference followed => exact (Bool.or_false _).symm
  | array inner => exact (Bool.or_false _).symm
  | @enumeration _ values =>
      rw [ofEnumeration, namesNull, Bool.or_false]
      · cases values.isOpen <;> rfl
      · exact nofun
      · exact nofun
  | record declared absent present => exact (Bool.or_false _).symm

/-- A missing fragment names nothing. -/
theorem InferredOptional.nullable {follow : Follow} {position : Position}
    {fragment : Option Fragment} {inference : Inference}
    (inferred : InferredOptional follow position fragment inference) :
    inference.type.nullable = (!position.required || fragment.any namesNull) := by
  cases fragment with
  | none =>
      cases inferred
      exact (Bool.or_false _).symm
  | some fragment => exact Inferred.nullable inferred

end ProtocolBindings.Resolve
