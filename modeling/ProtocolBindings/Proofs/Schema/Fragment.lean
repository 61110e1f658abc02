import ProtocolBindings.Schema.Fragment

/-!
# Induction on fragments

A fragment holds others as the items of an array, as the types of properties, as
the values of a mapping, and as the parts of a composition.
-/

namespace ProtocolBindings.Schema

namespace Fragment

theorem sizeOf_lt_of_property {shape : ObjectShape Fragment} {property : Property Fragment}
    (member : property ∈ shape.properties) {fragment : Fragment}
    (found : property.fragment = some fragment) : sizeOf fragment < sizeOf shape := by
  have inside := List.sizeOf_lt_of_mem member
  obtain ⟨place, properties, declared, additional⟩ := shape
  obtain ⟨propertyPlace, name, required, held⟩ := property
  simp only at found
  simp only [found, Property.mk.sizeOf_spec, Option.some.sizeOf_spec] at inside
  simp only [ObjectShape.mk.sizeOf_spec]
  omega

theorem sizeOf_lt_of_additional {shape : ObjectShape Fragment} {fragment : Fragment}
    (found : shape.additional = .described fragment) : sizeOf fragment < sizeOf shape := by
  obtain ⟨place, properties, declared, additional⟩ := shape
  simp only at found
  simp only [found, ObjectShape.mk.sizeOf_spec, Additional.described.sizeOf_spec]
  omega

/-- What holds of a fragment whenever it holds of the fragments directly inside it
holds of every fragment. -/
@[elab_as_elim] theorem induct {motive : Fragment → Prop}
    (primitive : ∀ place typeName, motive (.primitive place typeName))
    (enumeration : ∀ values, motive (.enumeration values))
    (typeList : ∀ place types, motive (.typeList place types))
    (reference : ∀ link, motive (.reference link))
    (bareArray : ∀ place, motive (.array place none))
    (array : ∀ place items, motive items → motive (.array place (some items)))
    (object : ∀ shape : ObjectShape Fragment,
      (∀ property ∈ shape.properties, ∀ fragment,
        property.fragment = some fragment → motive fragment) →
      (∀ fragment, shape.additional = .described fragment → motive fragment) →
      motive (.object shape))
    (composition : ∀ place base extension,
      (∀ fragment, base = some fragment → motive fragment) →
      (∀ fragment, extension = some fragment → motive fragment) →
      motive (.composition place base extension))
    (fragment : Fragment) : motive fragment := by
  induction fragment using (measure (fun fragment : Fragment => sizeOf fragment)).wf.induction with
  | h fragment smaller =>
      replace smaller : ∀ inner, sizeOf inner < sizeOf fragment → motive inner := smaller
      cases fragment with
      | primitive place typeName => exact primitive place typeName
      | enumeration values => exact enumeration values
      | typeList place types => exact typeList place types
      | reference link => exact reference link
      | array place items =>
          cases items with
          | none => exact bareArray place
          | some items =>
              apply array place items
              apply smaller
              simp only [Fragment.array.sizeOf_spec, Option.some.sizeOf_spec]
              omega
      | object shape =>
          have within : sizeOf shape < sizeOf (Fragment.object shape) := by simp
          apply object shape
          · intro property member fragment found
            exact smaller fragment (Nat.lt_trans (sizeOf_lt_of_property member found) within)
          · intro fragment found
            exact smaller fragment (Nat.lt_trans (sizeOf_lt_of_additional found) within)
      | composition place base extension =>
          apply composition place base extension
          · rintro fragment rfl
            apply smaller
            simp only [Fragment.composition.sizeOf_spec, Option.some.sizeOf_spec]
            omega
          · rintro fragment rfl
            apply smaller
            simp only [Fragment.composition.sizeOf_spec, Option.some.sizeOf_spec]
            omega

end Fragment

end ProtocolBindings.Schema
