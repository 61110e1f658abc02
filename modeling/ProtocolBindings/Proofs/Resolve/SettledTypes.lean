import ProtocolBindings.Proofs.Failure
import ProtocolBindings.Resolve.Inference

/-!
# Types of fragments without parts

What a list of scalars, a list of type names, a name of its own and an object without declared
properties stand for, where they stand for a type at all.
-/

namespace ProtocolBindings.Resolve

open Model
open Schema (Additional Fragment)

/-! ## Lists of names -/

/-- The type of distinct scalars. -/
def scalarsType (nullable : Bool) : List PrimitiveType → TypeDescriptor
  | [] => TypeDescriptor.any.withNullable nullable
  | [scalar] => .scalar scalar nullable
  | scalars => .unionOf scalars nullable

theorem scalarsType_nullable (nullable : Bool) (scalars : List PrimitiveType) :
    (scalarsType nullable scalars).nullable = nullable := by
  match scalars with
  | [] => rfl
  | [_] => rfl
  | _ :: _ :: _ => rfl

/-- Scalars stand for their type as long as there are not too many. -/
theorem ofScalars_eq (scalars : List PrimitiveType) (nullable : Bool) (owner path : Text) :
    ofScalars scalars nullable owner path =
      if maxUnionArity < scalars.length then
        .error (.resolution ⟨.tooManyAlternatives scalars.length, owner, path⟩)
      else .ok (scalarsType nullable scalars) := by
  match scalars with
  | [] => rfl
  | [_] => rfl
  | _ :: _ :: _ => rfl

theorem ofScalars_eq_ok_iff {scalars : List PrimitiveType} {nullable : Bool}
    {owner path : Text} {type : TypeDescriptor} :
    ofScalars scalars nullable owner path = .ok type ↔
      scalars.length ≤ maxUnionArity ∧ scalarsType nullable scalars = type := by
  rw [ofScalars_eq]
  by_cases many : maxUnionArity < scalars.length
  · rw [if_pos many]
    constructor
    · intro refused
      cases refused
    · rintro ⟨few, -⟩
      exact absurd many (Nat.not_lt.mpr few)
  · rw [if_neg many, Except.ok.injEq]
    exact (and_iff_right (Nat.le_of_not_lt many)).symm

/-- A list of names stands for any value or for the type of its scalars. -/
theorem collapse_ok {table : MemberTable} {types : List Json} {required : Bool}
    {owner path : Text} {type : TypeDescriptor}
    (succeeded : collapse table types required owner path = .ok type) :
    type = TypeDescriptor.any.withNullable (!required || decide (.text "null" ∈ types)) ∨
      ∃ scalars, collectScalars table [] types = .ok (some scalars) ∧
        ofScalars scalars (!required || decide (.text "null" ∈ types)) owner path =
          .ok type := by
  obtain ⟨everything, named, rest⟩ := bind_eq_ok_iff.mp succeeded
  cases everything with
  | true => exact .inl (Except.ok.inj rest).symm
  | false =>
      obtain ⟨scalars, collected, rest⟩ := bind_eq_ok_iff.mp rest
      cases scalars with
      | none => exact .inl (Except.ok.inj rest).symm
      | some scalars => exact .inr ⟨scalars, mapError_eq_ok_iff.mp collected, rest⟩

/-! ## Names and objects -/

/-- The type that a name of its own stands for. -/
def namedType : Json → TypeDescriptor
  | .text name =>
      match scalarOf? name with
      | some scalar => .scalar scalar false
      | none => .any
  | _ => .any

def isNullName : Json → Bool
  | .text name => name == "null"
  | _ => false

theorem type_of_ofTypeName {typeName : Json} {nullable : Bool} {type : TypeDescriptor}
    (named : ofTypeName typeName nullable = .ok type) :
    type = (namedType typeName).withNullable (nullable || isNullName typeName) := by
  cases typeName with
  | text name =>
      rw [ofTypeName] at named
      rw [namedType, isNullName]
      cases scalar : scalarOf? name with
      | none => rw [scalar] at named; cases named; rfl
      | some found =>
          have notNull : (name == "null") = false := by
            cases null : name == "null" with
            | false => rfl
            | true => rw [eq_of_beq null] at scalar; cases scalar
          rw [scalar] at named
          cases named
          rw [notNull, Bool.or_false]
          rfl
  | null | bool _ | integer _ | number _ =>
      cases named
      exact congrArg TypeDescriptor.any.withNullable (Bool.or_false nullable).symm
  | array _ | object _ => cases named

/-- The type of an object without properties of its own. -/
def additionalType : Additional Fragment → TypeDescriptor
  | .unstated => .any
  | .anything | .described _ => .mapOf (.scalar .string false) false

theorem type_of_ofUndeclared {owner : Text} {additional : Additional Fragment}
    {nullable : Bool} {type : TypeDescriptor}
    (typed : ofUndeclared owner additional nullable = .ok type) :
    type = (additionalType additional).withNullable nullable := by
  cases additional with
  | unstated => cases typed; rfl
  | anything => cases typed; rfl
  | described fragment =>
      simp only [ofUndeclared] at typed
      split at typed
      · split at typed
        · cases typed
        · cases typed; rfl
      · cases typed; rfl

end ProtocolBindings.Resolve
