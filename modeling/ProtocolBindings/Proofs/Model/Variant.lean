import ProtocolBindings.Proofs.Model.Descriptor

/-!
# Type descriptors as closed variants

The kind of a descriptor says which of the shared fields are filled in, and with what.
A well-formed descriptor is such a variant, and so is everything inside it.
-/

namespace ProtocolBindings.Model.TypeDescriptor

/-- The fields of a descriptor are filled in as its kind calls for. -/
structure IsVariant (descriptor : TypeDescriptor) : Prop where
  /-- Exactly the primitives have a scalar type. -/
  primitive : descriptor.primitive ≠ none ↔ descriptor.kind = .primitive
  /-- Only the kinds that name an entity have a name. -/
  name : descriptor.name ≠ "" →
    descriptor.kind = .reference ∨ descriptor.kind = .inlineEnum ∨
      descriptor.kind = .anonymousObject
  /-- Only arrays, mappings and unions have arguments. -/
  arguments : descriptor.arguments ≠ [] →
    descriptor.kind = .array ∨ descriptor.kind = .map ∨ descriptor.kind = .union
  array : descriptor.kind = .array → ∃ element, descriptor.arguments = [element]
  map : descriptor.kind = .map →
    ∃ value, descriptor.arguments = [scalar .string false, value]
  /-- A union has two or three different scalars, none of which admits null. -/
  union : descriptor.kind = .union → ∃ members : List PrimitiveType,
    descriptor.arguments = members.map (scalar · false) ∧ members.Nodup ∧
      2 ≤ members.length ∧ members.length ≤ 3
  openEnum : descriptor.openEnum ≠ none →
    descriptor.kind = .primitive ∧ descriptor.primitive = some .string
  void : descriptor.kind = .void → descriptor.nullable = false

theorem isVariant_void : void.IsVariant := by
  constructor <;> simp [void]

theorem isVariant_scalar (type : PrimitiveType) (nullable : Bool) :
    (scalar type nullable).IsVariant := by
  constructor <;> simp [scalar]

theorem WellFormed.isVariant {descriptor : TypeDescriptor} (formed : descriptor.WellFormed) :
    descriptor.IsVariant := by
  cases formed with
  | any nullable => constructor <;> simp [TypeDescriptor.any, withNullable]
  | scalar type nullable => exact isVariant_scalar type nullable
  | suggestedText openEnum nullable => constructor <;> simp [TypeDescriptor.suggestedText]
  | reference name nullable => constructor <;> simp [TypeDescriptor.reference]
  | inlineEnum name nullable => constructor <;> simp [TypeDescriptor.inlineEnum]
  | anonymousObject name nullable => constructor <;> simp [TypeDescriptor.anonymousObject]
  | arrayOf nullable inner => constructor <;> simp [TypeDescriptor.arrayOf]
  | mapOf nullable inner => constructor <;> simp [TypeDescriptor.mapOf]
  | @unionOf members nullable distinct several bounded =>
      constructor
      case union => exact fun _ => ⟨members, rfl, distinct, several, bounded⟩
      all_goals simp [TypeDescriptor.unionOf]

/-- Everything inside a well-formed descriptor is well-formed. -/
theorem WellFormed.parts {descriptor : TypeDescriptor} (formed : descriptor.WellFormed) :
    ∀ part ∈ descriptor.parts, part.WellFormed := by
  induction formed with
  | any nullable =>
      rw [parts_withNullable_any]
      exact List.forall_mem_singleton.mpr (.any nullable)
  | scalar type nullable =>
      rw [parts_scalar]
      exact List.forall_mem_singleton.mpr (.scalar type nullable)
  | suggestedText openEnum nullable =>
      rw [parts_suggestedText]
      exact List.forall_mem_singleton.mpr (.suggestedText openEnum nullable)
  | reference name nullable =>
      rw [parts_reference]
      exact List.forall_mem_singleton.mpr (.reference name nullable)
  | inlineEnum name nullable =>
      rw [parts_inlineEnum]
      exact List.forall_mem_singleton.mpr (.inlineEnum name nullable)
  | anonymousObject name nullable =>
      rw [parts_anonymousObject]
      exact List.forall_mem_singleton.mpr (.anonymousObject name nullable)
  | arrayOf nullable inner ih =>
      rw [parts_arrayOf]
      exact List.forall_mem_cons.mpr ⟨.arrayOf nullable inner, ih⟩
  | mapOf nullable inner ih =>
      rw [parts_mapOf]
      exact List.forall_mem_cons.mpr ⟨.mapOf nullable inner,
        List.forall_mem_cons.mpr ⟨.scalar .string false, ih⟩⟩
  | unionOf nullable distinct several bounded =>
      rw [parts_unionOf]
      refine List.forall_mem_cons.mpr ⟨.unionOf nullable distinct several bounded, ?_⟩
      intro part member
      obtain ⟨type, _, rfl⟩ := List.mem_map.mp member
      exact .scalar type false

theorem WellFormed.kind_ne_void {descriptor : TypeDescriptor}
    (formed : descriptor.WellFormed) : descriptor.kind ≠ .void := by
  cases formed <;> simp

end ProtocolBindings.Model.TypeDescriptor
