import ProtocolBindings.Proofs.Bindings.ClassOrder
import ProtocolBindings.Proofs.Model.Occurrence
import ProtocolBindings.Proofs.Model.Reach

/-!
# What code needs

The names that the code of a model needs, read off the model alone, and that rendering
leaves these names: each part leaves what it needs, and so does what is made of parts.
-/

namespace ProtocolBindings.Bindings

open Model

/-- Whether the code of a model needs a name. -/
def NeededBy (model : Model) : Import → Prop
  | .annotations => True
  | .enum => ∃ enumType ∈ model.enumTypes, enumType.isOpen = false
  | .dataclass | .dataclassJson => model.records ≠ []
  | .field | .config => ∃ record ∈ model.records, ∃ property ∈ record.properties,
      identifier property.name ≠ property.name
  | .any => ∃ type ∈ model.descriptors, type.AdmitsAny
  | .protocol => model.requests ≠ [] ∨ model.events ≠ []

/-! ## Annotations -/

/-- What the annotation of a type needs. -/
def TypeNeeds (type : TypeDescriptor) (entry : Import) : Prop :=
  type.AdmitsAny ∧ entry = .any

theorem typeNeeds_iff (type : TypeDescriptor) (entry : Import) :
    TypeNeeds type entry ↔
      type.kind = .any ∧ entry = .any ∨
      type.kind = .array ∧ (∃ element, type.arguments.head? = some element ∧
        TypeNeeds element entry) ∨
      type.kind = .map ∧ (∃ value, type.arguments.getLast? = some value ∧
        TypeNeeds value entry) ∨
      type.kind = .union ∧ ∃ member ∈ type.arguments, TypeNeeds member entry := by
  constructor
  · rintro ⟨⟨inner, reaches, admits⟩, rfl⟩
    have needs {own : TypeDescriptor} (rest : TypeDescriptor.Reaches own inner) :
        TypeNeeds own .any := ⟨⟨inner, rest, admits⟩, rfl⟩
    cases reaches with
    | refl => exact .inl ⟨admits, rfl⟩
    | element array first rest => exact .inr (.inl ⟨array, _, first, needs rest⟩)
    | value map last rest => exact .inr (.inr (.inl ⟨map, _, last, needs rest⟩))
    | member union among rest => exact .inr (.inr (.inr ⟨union, _, among, needs rest⟩))
  · rintro (⟨admits, rfl⟩ | ⟨array, _, first, ⟨inner, rest, admits⟩, rfl⟩ |
      ⟨map, _, last, ⟨inner, rest, admits⟩, rfl⟩ | ⟨union, _, among, ⟨inner, rest, admits⟩, rfl⟩)
    · exact ⟨⟨type, .refl type, admits⟩, rfl⟩
    · exact ⟨⟨inner, .element array first rest, admits⟩, rfl⟩
    · exact ⟨⟨inner, .value map last rest, admits⟩, rfl⟩
    · exact ⟨⟨inner, .member union among rest, admits⟩, rfl⟩

theorem annotationOfFirst_eq (arguments : List TypeDescriptor) :
    annotationOfFirst arguments =
      match arguments.head? with
      | some first => annotationOf first
      | none => .fail .absentArgument := by
  cases arguments with
  | nil => rw [annotationOfFirst, List.head?_nil]
  | cons first rest => rw [annotationOfFirst, List.head?_cons]

theorem annotationOfLast_eq (arguments : List TypeDescriptor) :
    annotationOfLast arguments =
      match arguments.getLast? with
      | some last => annotationOf last
      | none => .fail .absentArgument := by
  induction arguments with
  | nil => rw [annotationOfLast, List.getLast?_nil]
  | cons first rest ih =>
      cases rest with
      | nil => rw [annotationOfLast, List.getLast?_singleton]
      | cons second rest => rw [annotationOfLast, ih, List.getLast?_cons_cons]

theorem collects_annotations : Traced.Collects annotationOf annotations :=
  ⟨annotations.eq_1, annotations.eq_2⟩

theorem annotationOf_leaves (type : TypeDescriptor) :
    (annotationOf type).LeavesExactly (TypeNeeds type) := by
  -- The induction goes through all arguments, of which the kind of the type picks some.
  induction type using TypeDescriptor.induct with
  | each type ih =>
      obtain ⟨kind, primitive, name, arguments, nullable, openEnum⟩ := type
      refine Traced.LeavesExactly.congr ?_ fun entry => (typeNeeds_iff _ entry).symm
      cases kind with
      | primitive =>
          cases primitive with
          | none =>
              rw [annotationOf]
              exact .bind_quiet (.fail _ _) fun _ => .pure _
          | some scalar =>
              rw [annotationOf]
              exact (Traced.LeavesExactly.pure _).congr fun entry => by simp
      | reference | inlineEnum | anonymousObject | void =>
          rw [annotationOf]
          exact (Traced.LeavesExactly.pure _).congr fun entry => by simp
      | array =>
          rw [annotationOf, annotationOfFirst_eq]
          cases first : arguments.head? with
          | none => exact .bind_quiet (.fail _ _) fun _ => .pure _
          | some element =>
              have inner := ih element (List.mem_of_head? first)
              exact (inner.bind_quiet fun _ => .pure _).congr fun entry => by simp
      | map =>
          rw [annotationOf, annotationOfLast_eq]
          cases last : arguments.getLast? with
          | none => exact .bind_quiet (.fail _ _) fun _ => .pure _
          | some value =>
              have inner := ih value (List.mem_of_getLast? last)
              exact (inner.bind_quiet fun _ => .pure _).congr fun entry => by simp
      | union =>
          rw [annotationOf]
          have members := collects_annotations.gathers.leavesExactly ih
          exact (members.bind_quiet fun _ => .pure _).congr fun entry => by simp
      | any =>
          rw [annotationOf]
          exact ((Traced.LeavesExactly.note _).bind_quiet fun _ => .pure _).congr
            fun entry => by simp

theorem annotation?_leaves (type : Option TypeDescriptor) :
    (annotation? type).LeavesExactly fun entry => ∃ inner ∈ type.toList, TypeNeeds inner entry := by
  cases type with
  | none => exact (Traced.LeavesExactly.pure _).congr fun entry => by simp
  | some type =>
      exact ((annotationOf_leaves type).bind_quiet fun _ => .pure _).congr fun entry => by simp

/-! ## Parts of a model -/

theorem enumClass_leaves (enumType : EnumType) :
    (enumClass enumType).LeavesExactly fun entry =>
      enumType.isOpen = false ∧ entry = .enum := by
  simp only [enumClass]
  cases enumType.isOpen with
  | true =>
      rw [if_pos rfl]
      exact Traced.LeavesExactly.congr (.bind_quiet (.ofExcept _) fun _ =>
        .bind_quiet (.ofExcept _) fun _ => .pure _) fun entry => by simp
  | false =>
      rw [if_neg Bool.false_ne_true]
      exact Traced.LeavesExactly.congr (.bind_quiet (.note _) fun _ =>
        .bind_quiet (.ofExcept _) fun _ => .bind_quiet (.ofExcept _) fun _ => .pure _)
        fun entry => by simp

/-- What the field of a property needs. -/
def PropertyNeeds (property : RecordProperty) (entry : Import) : Prop :=
  identifier property.name ≠ property.name ∧ (entry = .field ∨ entry = .config) ∨
    TypeNeeds property.type entry

theorem fieldOf_leaves (property : RecordProperty) :
    (fieldOf property).LeavesExactly (PropertyNeeds property) := by
  have typed := annotationOf_leaves property.type
  simp only [fieldOf]
  split
  · rename_i renamed
    refine Traced.LeavesExactly.congr (.bind (.note _) fun _ => .bind (.note _) fun _ =>
      typed.bind_quiet fun _ => .pure _) fun entry => ?_
    simp [PropertyNeeds, renamed, or_assoc]
  · rename_i same
    exact (typed.bind_quiet fun _ => .pure _).congr fun entry => by simp [PropertyNeeds, same]

theorem recordClass_leaves (record : Record) :
    (recordClass record).LeavesExactly fun entry =>
      (entry = .dataclass ∨ entry = .dataclassJson) ∨
        ∃ property ∈ record.properties, PropertyNeeds property entry := by
  have fields := collects_fieldsOf.gathers
  rw [recordClass]
  refine Traced.LeavesExactly.congr (.bind (.note _) fun _ => .bind (.note _) fun _ =>
    .bind_quiet (fields.leavesExactly fun property _ => fieldOf_leaves property) fun _ =>
      .bind_quiet (.ofExcept _) fun _ => .bind_quiet (.ofExcept _) fun _ => .pure _)
    fun entry => or_assoc.symm

theorem requestMethod_leaves (request : Request) :
    (requestMethod request).LeavesExactly fun entry =>
      ∃ type ∈ request.descriptors, TypeNeeds type entry := by
  have arguments := annotation?_leaves request.arguments
  rw [requestMethod]
  cases returned : request.returns with
  | none =>
      refine Traced.LeavesExactly.congr (arguments.bind fun _ =>
        .bind_quiet (.fail (fun _ => False) _) fun _ => .pure _) fun entry => ?_
      simp [Request.descriptors, returned]
  | some type =>
      refine Traced.LeavesExactly.congr (arguments.bind fun _ =>
        (annotationOf_leaves type).bind_quiet fun _ => .pure _) fun entry => ?_
      simp [Request.descriptors, returned, or_and_right, exists_or]

theorem eventMethod_leaves (event : Event) :
    (eventMethod event).LeavesExactly fun entry =>
      ∃ type ∈ event.descriptors, TypeNeeds type entry :=
  (annotation?_leaves event.body).bind_quiet fun _ => .pure _

theorem interfaceOf_leaves {α : Type} (name : Json) (description : Text)
    {method : α → Rendering Method} {entries : α → Import → Prop} {operations : List α}
    (each : ∀ operation ∈ operations, (method operation).LeavesExactly (entries operation)) :
    (interfaceOf name description method operations).LeavesExactly fun entry =>
      (∃ operation ∈ operations, entries operation entry) ∨
        operations ≠ [] ∧ entry = .protocol := by
  have methods := (collects_methodsOf method).gathers
  rw [interfaceOf]
  split
  · rename_i idle
    rw [List.isEmpty_iff.mp idle]
    exact (Traced.LeavesExactly.pure _).congr fun entry => by simp
  · rename_i busy
    refine Traced.LeavesExactly.congr ((methods.leavesExactly each).bind fun _ =>
      .bind_quiet (.bind_quiet (.note _) fun _ => .bind_quiet (.ofExcept _) fun _ => .pure _)
        fun _ => .pure _) fun entry => ?_
    simp [mt List.isEmpty_iff.mpr busy]

theorem gathers_classesOf {α : Type} (render : α → Rendering (List Text)) :
    Traced.Gathers render (classesOf render) where
  nil := ⟨[], rfl⟩
  cons _ _ := ⟨fun first others => spaced first ++ others, rfl⟩

theorem names_records_sublist (entities : List Entity) :
    ((entities.filterMap Entity.record?).map Record.name).Sublist (entities.map Entity.name) := by
  induction entities with
  | nil => exact .slnil
  | cons entity entities ih =>
      cases entity with
      | record content => exact ih.cons_cons content.name
      | enumType content => exact ih.cons content.name

/-- The types of a model are those of its properties, its requests and its events. -/
theorem exists_descriptor_iff {model : Model} {kind : TypeDescriptor → Prop} :
    (∃ type ∈ model.descriptors, kind type) ↔
      (∃ record ∈ model.records, ∃ property ∈ record.properties, kind property.type) ∨
      (∃ request ∈ model.requests, ∃ type ∈ request.descriptors, kind type) ∨
      ∃ event ∈ model.events, ∃ type ∈ event.descriptors, kind type := by
  have typed : (∃ type ∈ model.entities.flatMap Entity.descriptors, kind type) ↔
      ∃ record ∈ model.records, ∃ property ∈ record.properties, kind property.type := by
    constructor
    · rintro ⟨type, member, holds⟩
      obtain ⟨entity, among, own⟩ := List.mem_flatMap.mp member
      cases entity with
      | enumType content => cases own
      | record content =>
          obtain ⟨property, inside, rfl⟩ := List.mem_map.mp own
          exact ⟨content, List.mem_filterMap.mpr ⟨_, among, rfl⟩, property, inside, holds⟩
    · rintro ⟨record, member, property, inside, holds⟩
      obtain ⟨entity, among, own⟩ := List.mem_filterMap.mp member
      cases entity with
      | enumType content => cases own
      | record content =>
          cases own
          exact ⟨property.type, List.mem_flatMap.mpr
            ⟨_, among, List.mem_map_of_mem inside⟩, holds⟩
  have flattened {α : Type} (parts : List α) (types : α → List TypeDescriptor) :
      (∃ type ∈ parts.flatMap types, kind type) ↔
        ∃ part ∈ parts, ∃ type ∈ types part, kind type := by
    simp only [List.mem_flatMap]
    grind
  simp only [Model.descriptors, List.mem_append, or_and_right, exists_or, typed, flattened,
    or_assoc]

/-- If the code of a model with distinct names is rendered, it leaves the names that it needs. -/
theorem modelLines_leaves (config : Config) {model : Model}
    (distinct : (model.entities.map Entity.name).Nodup) :
    (modelLines config model).LeavesExactly (NeededBy model) := by
  rw [modelLines]
  refine Traced.LeavesExactly.congr (.bind (.note _) fun _ =>
    .bind ((gathers_classesOf enumClass).leavesExactly fun enumType _ =>
      enumClass_leaves enumType) fun _ =>
    .bind ((gathers_classesOf recordClass).leavesExactly fun record _ =>
      recordClass_leaves record) fun _ =>
    .bind (interfaceOf_leaves _ _ fun request _ => requestMethod_leaves request) fun _ =>
    .bind_quiet (interfaceOf_leaves _ _ fun event _ => eventMethod_leaves event) fun _ =>
    .pure _) fun entry => ?_
  have order : (orderRecords model.records).Perm model.records :=
    orderRecords_perm (distinct.sublist (names_records_sublist model.entities))
  simp only [(orderEnums_perm model.enumTypes).mem_iff, order.mem_iff]
  cases entry with
  | any => simp [NeededBy, PropertyNeeds, TypeNeeds, exists_descriptor_iff]
  | dataclass | dataclassJson =>
      simp [NeededBy, PropertyNeeds, TypeNeeds, List.eq_nil_iff_forall_not_mem]
  | annotations | enum | field | config | protocol => simp [NeededBy, PropertyNeeds, TypeNeeds]

end ProtocolBindings.Bindings
