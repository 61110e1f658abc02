import ProtocolBindings.Bindings.Module
import ProtocolBindings.Proofs.Model.Renderable
import ProtocolBindings.Proofs.Traced

/-!
# Rendering of renderable models

Every type of a renderable model has an annotation and every description has lines,
so that the code of the model is always rendered.
-/

namespace ProtocolBindings.Bindings

open Model
open Json (IsRemark)

/-! ## Annotations -/

/-- A type with an annotation. -/
abbrev Annotated (type : TypeDescriptor) : Prop :=
  annotationOf type |>.Succeeds fun _ => True

theorem annotated_scalar (type : PrimitiveType) (nullable : Bool) :
    Annotated (.scalar type nullable) := by
  rw [Annotated, TypeDescriptor.scalar, annotationOf]
  exact trivial

theorem annotations_scalars (members : List PrimitiveType) :
    (annotations (members.map (TypeDescriptor.scalar · false))).Succeeds fun _ => True := by
  induction members with
  | nil => exact trivial
  | cons member members ih =>
      rw [List.map_cons, annotations]
      apply Traced.Ends.bind (annotated_scalar member false)
      intro first _
      exact ih.bind fun _ _ => trivial

/-- A well-formed type has an annotation. -/
theorem annotated_of_wellFormed {type : TypeDescriptor} (formed : type.WellFormed) :
    Annotated type := by
  induction formed with
  | any nullable =>
      rw [Annotated, TypeDescriptor.any, TypeDescriptor.withNullable, annotationOf]
      exact trivial
  | scalar type nullable => exact annotated_scalar type nullable
  | suggestedText openEnum nullable =>
      rw [Annotated, TypeDescriptor.suggestedText, annotationOf]
      exact trivial
  | reference name nullable =>
      rw [Annotated, TypeDescriptor.reference, annotationOf]
      exact trivial
  | inlineEnum name nullable =>
      rw [Annotated, TypeDescriptor.inlineEnum, annotationOf]
      exact trivial
  | anonymousObject name nullable =>
      rw [Annotated, TypeDescriptor.anonymousObject, annotationOf]
      exact trivial
  | arrayOf nullable inner ih =>
      rw [Annotated, TypeDescriptor.arrayOf, annotationOf, annotationOfFirst]
      exact Traced.Ends.bind ih fun _ _ => trivial
  | mapOf nullable inner ih =>
      rw [Annotated, TypeDescriptor.mapOf, annotationOf, annotationOfLast, annotationOfLast]
      exact Traced.Ends.bind ih fun _ _ => trivial
  | unionOf nullable distinct several bounded =>
      rw [Annotated, TypeDescriptor.unionOf, annotationOf]
      exact Traced.Ends.bind (annotations_scalars _) fun _ _ => trivial

/-- A type of a renderable model has an annotation. -/
theorem annotated_of_wellFormed_or_void {type : TypeDescriptor}
    (formed : type.WellFormed ∨ type = .void) : Annotated type := by
  rcases formed with formed | rfl
  · exact annotated_of_wellFormed formed
  · rw [Annotated, TypeDescriptor.void, annotationOf]
    exact trivial

/-! ## Descriptions -/

theorem descriptionLines_ok {description : Json} (remark : IsRemark description) :
    ∃ lines, descriptionLines description = .ok lines := by
  cases remark with
  | null => exact ⟨[], rfl⟩
  | text value =>
      unfold descriptionLines
      cases (Json.text value).truthy with
      | true => exact ⟨_, rfl⟩
      | false => exact ⟨[], rfl⟩

theorem comments_ok (indentation : Text) {description : Json} (remark : IsRemark description) :
    ∃ lines, comments indentation description = .ok lines := by
  obtain ⟨lines, read⟩ := descriptionLines_ok remark
  rw [comments, read]
  exact ⟨_, rfl⟩

theorem quotedLines_ok (indentation : Text) {description : Json}
    (remark : IsRemark description) :
    ∃ lines, quotedLines indentation description = .ok lines := by
  obtain ⟨lines, read⟩ := descriptionLines_ok remark
  rw [quotedLines, read]
  exact ⟨_, rfl⟩

/-! ## Enumerations -/

theorem membersLines_ok {labelled : List (Text × EnumMember)}
    (remarks : ∀ pair ∈ labelled, IsRemark pair.2.description) :
    ∃ lines, membersLines labelled = .ok lines := by
  induction labelled with
  | nil => exact ⟨[], rfl⟩
  | cons pair rest ih =>
      obtain ⟨label, member⟩ := pair
      obtain ⟨described, first⟩ := comments_ok "    " (remarks _ List.mem_cons_self)
      obtain ⟨others, later⟩ := ih (List.forall_mem_cons.mp remarks).2
      rw [membersLines, memberLines, first, later]
      exact ⟨_, rfl⟩

theorem enumClass_succeeds {enumType : EnumType}
    (described : Entity.Described (.enumType enumType)) :
    (enumClass enumType).Succeeds fun _ => True := by
  cases described with
  | enumType own members =>
      obtain ⟨documentation, quoted⟩ := quotedLines_ok "    " own
      have remarks : ∀ pair ∈ (freshLabels [] enumType.members).zip enumType.members,
          IsRemark pair.2.description :=
        fun pair inside => members pair.2 (List.of_mem_zip inside).2
      obtain ⟨lines, rendered⟩ := membersLines_ok remarks
      simp only [enumClass, quoted, rendered]
      cases enumType.isOpen <;> exact trivial

/-! ## Records -/

theorem fieldOf_succeeds {property : RecordProperty}
    (formed : property.type.WellFormed ∨ property.type = .void) :
    (fieldOf property).Succeeds fun _ => True := by
  have annotated := annotated_of_wellFormed_or_void formed
  simp only [fieldOf]
  split
  · apply Traced.Ends.note_bind
    apply Traced.Ends.note_bind
    exact Traced.Ends.bind annotated fun _ _ => trivial
  · exact Traced.Ends.bind annotated fun _ _ => trivial

theorem collects_fieldsOf : Traced.Collects fieldOf fieldsOf := ⟨rfl, fun _ _ => rfl⟩

theorem fieldLines_ok {fields : List (RecordProperty × Field)}
    (remarks : ∀ pair ∈ fields, IsRemark pair.1.description) :
    ∃ lines, fieldLines fields = .ok lines := by
  induction fields with
  | nil => exact ⟨[], rfl⟩
  | cons pair rest ih =>
      obtain ⟨property, field⟩ := pair
      obtain ⟨described, first⟩ := comments_ok "    " (remarks _ List.mem_cons_self)
      obtain ⟨others, later⟩ := ih (List.forall_mem_cons.mp remarks).2
      rw [fieldLines, first, later]
      exact ⟨_, rfl⟩

theorem recordClass_succeeds {record : Record} (described : Entity.Described (.record record))
    (formed : ∀ property ∈ record.properties,
      property.type.WellFormed ∨ property.type = .void) :
    (recordClass record).Succeeds fun _ => True := by
  cases described with
  | record own properties =>
      obtain ⟨documentation, quoted⟩ := quotedLines_ok "    " own
      rw [recordClass, quoted]
      apply Traced.Ends.note_bind
      apply Traced.Ends.note_bind
      apply Traced.Ends.bind (collects_fieldsOf.ends fun property member =>
        fieldOf_succeeds (formed property member))
      intro fields _
      have remarks : ∀ pair ∈ record.properties.zip fields, IsRemark pair.1.description :=
        fun pair inside => properties pair.1 (List.of_mem_zip inside).1
      obtain ⟨lines, rendered⟩ := fieldLines_ok remarks
      rw [rendered]
      exact trivial

/-- Only records of the model are put in order. -/
theorem mem_of_mem_appendRecord {records : List Record} {rounds : Nat} {appending : List Text}
    {ordered : List Record} {record : Record} (known : record ∈ records)
    (within : ∀ other ∈ ordered, other ∈ records) :
    ∀ other ∈ appendRecord records rounds appending ordered record, other ∈ records := by
  -- A base is sought among the records of the model, so that it is known in its turn.
  induction rounds generalizing appending ordered record with
  | zero => exact within
  | succ rounds ih =>
      rw [appendRecord]
      split
      · exact within
      · intro other member
        rcases List.mem_append.mp member with earlier | last
        · cases found : baseRecord? records record with
          | none =>
              rw [found] at earlier
              exact within other earlier
          | some base =>
              rw [found] at earlier
              have baseKnown : base ∈ records :=
                List.mem_reverse.mp (List.mem_of_find?_eq_some found)
              exact ih baseKnown within other earlier
        · rw [List.mem_singleton.mp last]
          exact known

theorem mem_of_mem_orderRecords {records : List Record} :
    ∀ record ∈ orderRecords records, record ∈ records := by
  apply List.foldlRecOn (motive := fun ordered => ∀ record ∈ ordered, record ∈ records) records
  · exact nofun
  · intro ordered within record known
    exact mem_of_mem_appendRecord known within

/-! ## Interfaces -/

/-- The descriptions of a method are texts or missing. -/
structure Method.Described (method : Method) : Prop where
  own : IsRemark method.description
  returns : IsRemark method.returnsDescription

theorem annotated_optional {type : Option TypeDescriptor}
    (formed : ∀ inner, type = some inner → inner.WellFormed ∨ inner = .void) :
    annotation? type |>.Succeeds fun _ => True := by
  cases type with
  | none => exact trivial
  | some type =>
      exact Traced.Ends.bind (annotated_of_wellFormed_or_void (formed type rfl)) fun _ _ => trivial

theorem requestMethod_succeeds {request : Request} (described : request.Described)
    (formed : ∀ type ∈ request.descriptors, type.WellFormed ∨ type = .void) :
    (requestMethod request).Succeeds Method.Described := by
  rw [requestMethod]
  apply Traced.Ends.bind (annotated_optional fun type present =>
    formed type (List.mem_append_left _ (Option.mem_toList.mpr present)))
  intro arguments _
  cases present : request.returns with
  | none => exact absurd present described.returns
  | some type =>
      apply Traced.Ends.bind (annotated_of_wellFormed_or_void
        (formed type (List.mem_append_right _ (Option.mem_toList.mpr present))))
      exact fun _ _ => ⟨described.own, described.response⟩

theorem eventMethod_succeeds {event : Event} (remark : IsRemark event.description)
    (formed : ∀ type ∈ event.descriptors, type.WellFormed ∨ type = .void) :
    (eventMethod event).Succeeds Method.Described := by
  rw [eventMethod]
  apply Traced.Ends.bind (annotated_optional fun type present =>
    formed type (Option.mem_toList.mpr present))
  exact fun _ _ => ⟨remark, .null⟩

theorem collects_methodsOf {α : Type} (method : α → Rendering Method) :
    Traced.Collects method (methodsOf method) :=
  ⟨rfl, fun _ _ => rfl⟩

theorem methodsLines_ok {methods : List Method}
    (described : ∀ method ∈ methods, method.Described) :
    ∃ lines, methodsLines methods = .ok lines := by
  induction methods with
  | nil => exact ⟨[], rfl⟩
  | cons method rest ih =>
      have own := described method List.mem_cons_self
      obtain ⟨documentation, quoted⟩ := quotedLines_ok "        " own.own
      obtain ⟨result, returned⟩ := quotedLines_ok "            " own.returns
      obtain ⟨others, later⟩ := ih (List.forall_mem_cons.mp described).2
      rw [methodsLines, methodLines, quoted, returned, later]
      exact ⟨_, rfl⟩

theorem interfaceOf_succeeds {α : Type} (name : Json) (description : Text)
    {method : α → Rendering Method} {operations : List α}
    (each : ∀ operation ∈ operations, (method operation).Succeeds Method.Described) :
    (interfaceOf name description method operations).Succeeds fun _ => True := by
  rw [interfaceOf]
  split
  · exact trivial
  · apply Traced.Ends.bind ((collects_methodsOf method).ends each)
    intro methods described
    obtain ⟨lines, rendered⟩ := methodsLines_ok described
    rw [interfaceClass, rendered]
    exact trivial

/-! ## Modules -/

theorem classesOf_succeeds {α : Type} {render : α → Rendering (List Text)} {parts : List α}
    (each : ∀ part ∈ parts, (render part).Succeeds fun _ => True) :
    (classesOf render parts).Succeeds fun _ => True := by
  induction parts with
  | nil => exact trivial
  | cons part rest ih =>
      rw [classesOf]
      apply Traced.Ends.bind (each part List.mem_cons_self)
      intro first _
      exact Traced.Ends.bind (ih (List.forall_mem_cons.mp each).2) fun _ _ => trivial

section

variable {model : Model} (renderable : model.Renderable)

include renderable

private theorem enumClass_of_renderable :
    ∀ enumType ∈ orderEnums model.enumTypes, (enumClass enumType).Succeeds fun _ => True := by
  intro enumType member
  have among : enumType ∈ model.enumTypes := by
    rcases List.mem_append.mp member with closed | opened
    · exact (List.mem_filter.mp closed).1
    · exact (List.mem_filter.mp opened).1
  obtain ⟨entity, inside, isEnum⟩ := List.mem_filterMap.mp among
  cases entity with
  | record content => cases isEnum
  | enumType content =>
      cases isEnum
      exact enumClass_succeeds (renderable.entities _ inside)

private theorem recordClass_of_renderable :
    ∀ record ∈ orderRecords model.records, (recordClass record).Succeeds fun _ => True := by
  intro record member
  have among := mem_of_mem_orderRecords record member
  obtain ⟨entity, inside, isRecord⟩ := List.mem_filterMap.mp among
  cases entity with
  | enumType content => cases isRecord
  | record content =>
      cases isRecord
      refine recordClass_succeeds (renderable.entities _ inside) ?_
      intro property own
      exact renderable.types _ (Model.mem_descriptors_of_entity inside (List.mem_map_of_mem own))

private theorem requestMethod_of_renderable :
    ∀ request ∈ model.requests, (requestMethod request).Succeeds Method.Described := by
  intro request member
  exact requestMethod_succeeds (renderable.requests request member) fun type own =>
    renderable.types type (Model.mem_descriptors_of_request member own)

private theorem eventMethod_of_renderable :
    ∀ event ∈ model.events, (eventMethod event).Succeeds Method.Described := by
  intro event member
  exact eventMethod_succeeds (renderable.events event member) fun type own =>
    renderable.types type (Model.mem_descriptors_of_event member own)

end

theorem modelLines_succeeds (config : Config) {model : Model} (renderable : model.Renderable) :
    (modelLines config model).Succeeds fun _ => True := by
  rw [modelLines]
  apply Traced.Ends.note_bind
  apply Traced.Ends.bind (classesOf_succeeds (enumClass_of_renderable renderable))
  intro enumTypes _
  apply Traced.Ends.bind (classesOf_succeeds (recordClass_of_renderable renderable))
  intro records _
  apply Traced.Ends.bind (interfaceOf_succeeds _ _ (requestMethod_of_renderable renderable))
  intro server _
  apply Traced.Ends.bind (interfaceOf_succeeds _ _ (eventMethod_of_renderable renderable))
  exact fun client _ => trivial

/-- The code of a renderable model is always rendered. -/
theorem moduleText_ok (config : Config) {model : Model} (renderable : model.Renderable)
    (comment : Text) : ∃ code, (moduleText config model comment).outcome = .ok code := by
  obtain ⟨lines, rendered, _⟩ := (modelLines_succeeds config renderable).exists_ok
  rw [moduleText, rendered]
  exact ⟨_, rfl⟩

end ProtocolBindings.Bindings
