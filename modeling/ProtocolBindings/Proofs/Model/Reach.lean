import ProtocolBindings.Model.TypeDescriptor

/-!
# Values inside of values

A value of an array holds values of the element, one of a mapping values of its last
argument, and one of a union is a value of a member.  `Reaches` follows these arguments,
whatever other arguments a descriptor has.
-/

namespace ProtocolBindings.Model

namespace TypeDescriptor

/-- What holds of a descriptor if it holds of its arguments holds of every descriptor. -/
theorem induct {motive : TypeDescriptor → Prop}
    (each : ∀ descriptor, (∀ inner ∈ descriptor.arguments, motive inner) → motive descriptor)
    (descriptor : TypeDescriptor) : motive descriptor := by
  refine TypeDescriptor.rec (motive_1 := motive)
    (motive_2 := fun arguments => ∀ inner ∈ arguments, motive inner) ?_ ?_ ?_ descriptor
  · exact fun kind primitive name arguments nullable openEnum known =>
      each ⟨kind, primitive, name, arguments, nullable, openEnum⟩ known
  · exact nofun
  · exact fun _ _ first later => List.forall_mem_cons.mpr ⟨first, later⟩

/-- A descriptor leads to another by elements, values and members. -/
inductive Reaches : TypeDescriptor → TypeDescriptor → Prop where
  | refl (type : TypeDescriptor) : Reaches type type
  | element {type element inner : TypeDescriptor} (array : type.kind = .array)
      (first : type.arguments.head? = some element) (rest : Reaches element inner) :
      Reaches type inner
  | value {type value inner : TypeDescriptor} (map : type.kind = .map)
      (last : type.arguments.getLast? = some value) (rest : Reaches value inner) :
      Reaches type inner
  | member {type member inner : TypeDescriptor} (union : type.kind = .union)
      (among : member ∈ type.arguments) (rest : Reaches member inner) :
      Reaches type inner

/-- Whether a descriptor leads to one that admits any value. -/
def AdmitsAny (type : TypeDescriptor) : Prop :=
  ∃ inner, Reaches type inner ∧ inner.kind = .any

end TypeDescriptor

end ProtocolBindings.Model
