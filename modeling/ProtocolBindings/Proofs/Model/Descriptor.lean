import ProtocolBindings.Model.TypeDescriptor

/-!
# Parts and forms of type descriptors

A descriptor is part of itself, and so are the parts of its arguments.  The
descriptors of values are those that the smart constructors build; no other
combination of fields is well-formed.
-/

namespace ProtocolBindings.Model

namespace TypeDescriptor

mutual

/-- A descriptor together with everything inside it. -/
def parts : TypeDescriptor → List TypeDescriptor
  | ⟨kind, primitive, name, arguments, nullable, openEnum⟩ =>
      ⟨kind, primitive, name, arguments, nullable, openEnum⟩ :: partsOfAll arguments

/-- The parts of some descriptors. -/
def partsOfAll : List TypeDescriptor → List TypeDescriptor
  | [] => []
  | first :: rest => first.parts ++ partsOfAll rest

end

theorem partsOfAll_eq_flatMap (descriptors : List TypeDescriptor) :
    partsOfAll descriptors = descriptors.flatMap parts := by
  induction descriptors with
  | nil => rw [partsOfAll, List.flatMap_nil]
  | cons first rest ih => rw [partsOfAll, ih, List.flatMap_cons]

theorem parts_eq (descriptor : TypeDescriptor) :
    descriptor.parts = descriptor :: descriptor.arguments.flatMap parts := by
  cases descriptor
  rw [parts, partsOfAll_eq_flatMap]

@[simp] theorem parts_scalar (type : PrimitiveType) (nullable : Bool) :
    (scalar type nullable).parts = [scalar type nullable] := by
  rw [parts_eq]
  rfl

@[simp] theorem parts_withNullable_any (nullable : Bool) :
    (any.withNullable nullable).parts = [any.withNullable nullable] := by
  rw [parts_eq]
  rfl

@[simp] theorem parts_any : any.parts = [any] := parts_withNullable_any false

@[simp] theorem parts_void : void.parts = [void] := by
  rw [parts_eq]
  rfl

@[simp] theorem parts_suggestedText (openEnum : Text) (nullable : Bool) :
    (suggestedText openEnum nullable).parts = [suggestedText openEnum nullable] := by
  rw [parts_eq]
  rfl

@[simp] theorem parts_reference (name : Text) (nullable : Bool) :
    (reference name nullable).parts = [reference name nullable] := by
  rw [parts_eq]
  rfl

@[simp] theorem parts_inlineEnum (name : Text) (nullable : Bool) :
    (inlineEnum name nullable).parts = [inlineEnum name nullable] := by
  rw [parts_eq]
  rfl

@[simp] theorem parts_anonymousObject (name : Text) (nullable : Bool) :
    (anonymousObject name nullable).parts = [anonymousObject name nullable] := by
  rw [parts_eq]
  rfl

@[simp] theorem parts_arrayOf (element : TypeDescriptor) (nullable : Bool) :
    (arrayOf element nullable).parts = arrayOf element nullable :: element.parts := by
  rw [parts_eq]
  simp [arrayOf]

@[simp] theorem parts_mapOf (value : TypeDescriptor) (nullable : Bool) :
    (mapOf value nullable).parts =
      mapOf value nullable :: scalar .string false :: value.parts := by
  rw [parts_eq]
  simp [mapOf]

@[simp] theorem parts_unionOf (members : List PrimitiveType) (nullable : Bool) :
    (unionOf members nullable).parts =
      unionOf members nullable :: members.map (scalar · false) := by
  rw [parts_eq]
  simp [unionOf, List.flatMap_map, ← List.map_eq_flatMap]

theorem withNullable_nullable (descriptor : TypeDescriptor) :
    descriptor.withNullable descriptor.nullable = descriptor := by
  cases descriptor
  rfl

@[simp] theorem kind_withNullable (descriptor : TypeDescriptor) (nullable : Bool) :
    (descriptor.withNullable nullable).kind = descriptor.kind := rfl

@[simp] theorem kind_any : any.kind = .any := rfl

@[simp] theorem kind_void : void.kind = .void := rfl

@[simp] theorem kind_scalar (type : PrimitiveType) (nullable : Bool) :
    (scalar type nullable).kind = .primitive := rfl

@[simp] theorem kind_suggestedText (openEnum : Text) (nullable : Bool) :
    (suggestedText openEnum nullable).kind = .primitive := rfl

@[simp] theorem kind_reference (name : Text) (nullable : Bool) :
    (reference name nullable).kind = .reference := rfl

@[simp] theorem name_reference (name : Text) (nullable : Bool) :
    (reference name nullable).name = name := rfl

@[simp] theorem kind_inlineEnum (name : Text) (nullable : Bool) :
    (inlineEnum name nullable).kind = .inlineEnum := rfl

@[simp] theorem kind_anonymousObject (name : Text) (nullable : Bool) :
    (anonymousObject name nullable).kind = .anonymousObject := rfl

@[simp] theorem kind_arrayOf (element : TypeDescriptor) (nullable : Bool) :
    (arrayOf element nullable).kind = .array := rfl

@[simp] theorem kind_mapOf (value : TypeDescriptor) (nullable : Bool) :
    (mapOf value nullable).kind = .map := rfl

@[simp] theorem kind_unionOf (members : List PrimitiveType) (nullable : Bool) :
    (unionOf members nullable).kind = .union := rfl

/-- A descriptor of a value: a scalar, the suggested values of a text, a name, an
array, a mapping of texts, a union of two or three distinct scalars, or any value. -/
inductive WellFormed : TypeDescriptor → Prop where
  | any (nullable : Bool) : WellFormed (any.withNullable nullable)
  | scalar (type : PrimitiveType) (nullable : Bool) : WellFormed (scalar type nullable)
  | suggestedText (openEnum : Text) (nullable : Bool) :
      WellFormed (suggestedText openEnum nullable)
  | reference (name : Text) (nullable : Bool) : WellFormed (reference name nullable)
  | inlineEnum (name : Text) (nullable : Bool) : WellFormed (inlineEnum name nullable)
  | anonymousObject (name : Text) (nullable : Bool) :
      WellFormed (anonymousObject name nullable)
  | arrayOf {element : TypeDescriptor} (nullable : Bool) (inner : WellFormed element) :
      WellFormed (arrayOf element nullable)
  | mapOf {value : TypeDescriptor} (nullable : Bool) (inner : WellFormed value) :
      WellFormed (mapOf value nullable)
  | unionOf {members : List PrimitiveType} (nullable : Bool) (distinct : members.Nodup)
      (several : 2 ≤ members.length) (bounded : members.length ≤ 3) :
      WellFormed (unionOf members nullable)

/-- A well-formed descriptor of a reference is nothing but one. -/
theorem WellFormed.eq_reference {descriptor : TypeDescriptor}
    (formed : descriptor.WellFormed) (referring : descriptor.kind = .reference) :
    descriptor = .reference descriptor.name descriptor.nullable := by
  cases formed with
  | reference name nullable => rfl
  | any | scalar | suggestedText | inlineEnum | anonymousObject | arrayOf | mapOf | unionOf =>
      cases referring

end TypeDescriptor

end ProtocolBindings.Model
