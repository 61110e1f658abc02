import ProtocolBindings.Proofs.Json
import ProtocolBindings.Schema.Reader

/-!
# Shapes of documents and fragments

A well-shaped document has a value of the right JSON type wherever a schema calls
for one, at any depth, which can be checked.  A well-typed fragment is what reading makes of
a well-shaped value: its references, type names and descriptions are texts.
-/

namespace ProtocolBindings.Schema

open Json (lookup field IsRemark)

/-- The members of an object of a schema have the right types.  The marker is the key
of open enumerations. -/
structure MembersTyped (marker : Text) (members : List (Text × Json)) : Prop where
  composed : ∀ value, lookup "allOf" members = some value →
    ∃ items, value = .array items ∧ ∀ item ∈ items, item.isObject = true
  enumerated : ∀ value, lookup "enum" members = some value → ∃ items, value = .array items
  marked : ∀ value, lookup marker members = some value → ∃ items, value = .array items
  remarks : ∀ value, lookup "enumDescriptions" members = some value → value ≠ .null →
    ∃ items, value = .array items ∧ ∀ item ∈ items, IsRemark item
  required : ∀ value, lookup "required" members = some value →
    ∃ names : List Text, value = .array (names.map .text)
  properties : ∀ value, lookup "properties" members = some value → value ≠ .null →
    ∃ entries, value = .object entries ∧ ∀ entry ∈ entries, entry.2.isObject = true
  reference : ∀ value, lookup "$ref" members = some value → ∃ target, value = .text target
  type : ∀ value, lookup "type" members = some value →
    (∃ name, value = .text name) ∨ ∃ names : List Text, value = .array (names.map .text)
  description : ∀ value, lookup "description" members = some value → IsRemark value

/-- An object whose members have the right types, and so have those of the objects in
it that are read as parts of the schema. -/
inductive WellShaped (marker : Text) : Json → Prop where
  | object {members : List (Text × Json)} (typed : MembersTyped marker members)
      (parts : ∀ items, lookup "allOf" members = some (.array items) →
        ∀ item ∈ items, WellShaped marker item)
      (properties : ∀ entries, lookup "properties" members = some (.object entries) →
        ∀ entry ∈ entries, WellShaped marker entry.2)
      (items : ∀ inner, lookup "items" members = some (.object inner) →
        WellShaped marker (.object inner))
      (additional : ∀ inner, lookup "additionalProperties" members = some (.object inner) →
        WellShaped marker (.object inner)) :
      WellShaped marker (.object members)

/-- A document whose definitions are missing, null or an object in which every object
is well-shaped. -/
inductive DocumentShaped (marker : Text) : Json → Prop where
  | absent {members : List (Text × Json)} (missing : field members "definitions" = .null) :
      DocumentShaped marker (.object members)
  | present {members entries : List (Text × Json)}
      (found : lookup "definitions" members = some (.object entries))
      (shaped : ∀ entry ∈ entries, entry.2.isObject = true → WellShaped marker entry.2) :
      DocumentShaped marker (.object members)

/-! ## A check -/

section

variable (marker : Text)

/-- Whether the members of an object have the right types. -/
def membersTyped (members : List (Text × Json)) : Bool :=
  let passes (key : Text) (test : Json → Bool) : Bool := (lookup key members).all test
  passes "allOf" (Json.isArrayOf Json.isObject) && passes "enum" (Json.isArrayOf fun _ => true) &&
    passes marker (Json.isArrayOf fun _ => true) &&
    passes "enumDescriptions" (Json.isNullOr (Json.isArrayOf Json.isRemark)) &&
    passes "required" Json.isTextArray &&
    passes "properties" (Json.isNullOr (Json.isObjectOf Json.isObject)) &&
    passes "$ref" Json.isText &&
    passes "type" (fun value => value.isText || value.isTextArray) &&
    passes "description" Json.isRemark

mutual

/-- Whether a value is well-shaped. -/
def isWellShaped : Json → Bool
  | .object members => membersTyped marker members && partsShaped members members
  | _ => false

/-- Whether those among some members that are found in an object have well-shaped parts. -/
def partsShaped (object : List (Text × Json)) : List (Text × Json) → Bool
  | [] => true
  | (key, value) :: rest =>
      (decide (lookup key object ≠ some value) || partShaped key value) &&
        partsShaped object rest

/-- Whether the parts are well-shaped that a value has under a key. -/
def partShaped (key : Text) : Json → Bool
  | .array items => decide (key ≠ "allOf") || itemsShaped items
  | .object members =>
      (decide (key ≠ "properties") || entriesShaped members) &&
        (decide (key ≠ "items" ∧ key ≠ "additionalProperties") ||
          membersTyped marker members && partsShaped members members)
  | _ => true

/-- Whether all of some values are well-shaped. -/
def itemsShaped : List Json → Bool
  | [] => true
  | item :: items => isWellShaped item && itemsShaped items

/-- Whether the values of all of some entries are well-shaped. -/
def entriesShaped : List (Text × Json) → Bool
  | [] => true
  | (_, value) :: entries => isWellShaped value && entriesShaped entries

end

/-- Whether a document is well-shaped. -/
def isDocumentShaped : Json → Bool
  | .object members =>
      match lookup "definitions" members with
      | none | some .null => true
      | some (.object entries) =>
          entries.all fun entry => !entry.2.isObject || isWellShaped marker entry.2
      | some _ => false
  | _ => false

end

section

variable {marker : Text}

theorem membersTyped_iff {members : List (Text × Json)} :
    membersTyped marker members = true ↔ MembersTyped marker members := by
  simp only [membersTyped, Bool.and_eq_true, Bool.or_eq_true, Option.all_eq_true,
    Json.isNullOr_iff, Json.isArrayOf_iff, Json.isObjectOf_iff, Json.isTextArray_iff,
    Json.isText_iff, Json.isRemark_iff, implies_true, and_true]
  constructor
  · rintro ⟨⟨⟨⟨⟨⟨⟨⟨composed, enumerated⟩, marked⟩, remarks⟩, required⟩, properties⟩, reference⟩,
      type⟩, description⟩
    exact ⟨composed, enumerated, marked, remarks, required, properties, reference, type,
      description⟩
  · intro typed
    exact ⟨⟨⟨⟨⟨⟨⟨⟨typed.composed, typed.enumerated⟩, typed.marked⟩, typed.remarks⟩,
      typed.required⟩, typed.properties⟩, typed.reference⟩, typed.type⟩, typed.description⟩

/-- The parts that a value has under a key are well-shaped. -/
structure PartShaped (marker key : Text) (value : Json) : Prop where
  items : key = "allOf" → ∀ items, value = .array items → ∀ item ∈ items, WellShaped marker item
  entries : key = "properties" → ∀ entries, value = .object entries →
    ∀ entry ∈ entries, WellShaped marker entry.2
  inner : key = "items" ∨ key = "additionalProperties" → ∀ members, value = .object members →
    WellShaped marker (.object members)

theorem partShaped_array_iff {key : Text} {items : List Json} :
    PartShaped marker key (.array items) ↔
      (key = "allOf" → ∀ item ∈ items, WellShaped marker item) := by
  constructor
  · exact fun shaped named => shaped.items named items rfl
  · intro shaped
    constructor
    · rintro named _ ⟨⟩
      exact shaped named
    · rintro _ _ ⟨⟩
    · rintro _ _ ⟨⟩

theorem partShaped_object_iff {key : Text} {members : List (Text × Json)} :
    PartShaped marker key (.object members) ↔
      (key = "properties" → ∀ entry ∈ members, WellShaped marker entry.2) ∧
        (key = "items" ∨ key = "additionalProperties" → WellShaped marker (.object members)) := by
  constructor
  · intro shaped
    exact ⟨fun named => shaped.entries named members rfl,
      fun named => shaped.inner named members rfl⟩
  · rintro ⟨entries, inner⟩
    constructor
    · rintro _ _ ⟨⟩
    · rintro named _ ⟨⟩
      exact entries named
    · rintro named _ ⟨⟩
      exact inner named

/-- An object is well-shaped if its members are and what is found in it under a key. -/
theorem wellShaped_object_iff {members : List (Text × Json)} :
    WellShaped marker (.object members) ↔ MembersTyped marker members ∧
      ∀ member ∈ members, lookup member.1 members = some member.2 →
        PartShaped marker member.1 member.2 := by
  constructor
  · rintro ⟨typed, parts, properties, items, additional⟩
    refine ⟨typed, ?_⟩
    rintro ⟨key, value⟩ - found
    constructor
    · rintro rfl items rfl
      exact parts items found
    · rintro rfl entries rfl
      exact properties entries found
    · rintro (rfl | rfl) inner rfl
      · exact items inner found
      · exact additional inner found
  · rintro ⟨typed, shaped⟩
    have found {key : Text} {value : Json} (held : lookup key members = some value) :
        PartShaped marker key value :=
      shaped _ (Json.mem_of_lookup held) held
    constructor
    · exact typed
    · exact fun items held => (found held).items rfl items rfl
    · exact fun entries held => (found held).entries rfl entries rfl
    · exact fun inner held => (found held).inner (.inl rfl) inner rfl
    · exact fun inner held => (found held).inner (.inr rfl) inner rfl

mutual

/-- The check finds out which values are well-shaped. -/
theorem isWellShaped_iff : ∀ value : Json, isWellShaped marker value = true ↔
    WellShaped marker value
  | .object members => by
      rw [isWellShaped, Bool.and_eq_true, membersTyped_iff, partsShaped_iff,
        wellShaped_object_iff]
  | .null | .bool _ | .integer _ | .number _ | .text _ | .array _ => by
      refine iff_of_false ?_ ?_
      · simp [isWellShaped]
      · rintro ⟨⟩

theorem partsShaped_iff (object : List (Text × Json)) : ∀ members : List (Text × Json),
    partsShaped marker object members = true ↔
      ∀ member ∈ members, lookup member.1 object = some member.2 →
        PartShaped marker member.1 member.2
  | [] => by simp [partsShaped]
  | (key, value) :: rest => by
      rw [partsShaped, Bool.and_eq_true, Bool.or_eq_true, partShaped_iff key value,
        partsShaped_iff object rest, List.forall_mem_cons, decide_eq_true_iff, ne_eq,
        ← Decidable.imp_iff_not_or]

theorem partShaped_iff (key : Text) : ∀ value : Json, partShaped marker key value = true ↔
    PartShaped marker key value
  | .array items => by
      rw [partShaped, Bool.or_eq_true, itemsShaped_iff items, decide_eq_true_iff, ne_eq,
        ← Decidable.imp_iff_not_or, partShaped_array_iff]
  | .object members => by
      rw [partShaped, Bool.and_eq_true, Bool.or_eq_true, Bool.or_eq_true, Bool.and_eq_true,
        entriesShaped_iff members, membersTyped_iff, partsShaped_iff members members,
        ← wellShaped_object_iff, decide_eq_true_iff, decide_eq_true_iff, ne_eq, ne_eq, ne_eq,
        ← not_or, ← Decidable.imp_iff_not_or, ← Decidable.imp_iff_not_or, partShaped_object_iff]
  | .null | .bool _ | .integer _ | .number _ | .text _ => by
      refine iff_of_true (by simp [partShaped]) ?_
      constructor <;> rintro _ _ ⟨⟩

theorem itemsShaped_iff : ∀ items : List Json, itemsShaped marker items = true ↔
    ∀ item ∈ items, WellShaped marker item
  | [] => by simp [itemsShaped]
  | item :: items => by
      rw [itemsShaped, Bool.and_eq_true, isWellShaped_iff item, itemsShaped_iff items,
        List.forall_mem_cons]

theorem entriesShaped_iff : ∀ entries : List (Text × Json),
    entriesShaped marker entries = true ↔ ∀ entry ∈ entries, WellShaped marker entry.2
  | [] => by simp [entriesShaped]
  | (key, value) :: entries => by
      rw [entriesShaped, Bool.and_eq_true, isWellShaped_iff value, entriesShaped_iff entries,
        List.forall_mem_cons]

end

theorem isDocumentShaped_iff {document : Json} : isDocumentShaped marker document = true ↔
    DocumentShaped marker document := by
  constructor
  · intro passed
    cases document with
    | object members =>
        cases found : lookup "definitions" members with
        | none => exact .absent (by rw [field, found, Option.getD_none])
        | some value =>
            cases value with
            | null => exact .absent (by rw [field, found, Option.getD_some])
            | object entries =>
                refine .present found fun entry member inner => ?_
                simp only [isDocumentShaped, found, List.all_eq_true] at passed
                have own := passed entry member
                rw [inner, Bool.not_true, Bool.false_or] at own
                exact (isWellShaped_iff entry.2).mp own
            | _ => simp [isDocumentShaped, found] at passed
    | _ => cases passed
  · rintro (@⟨members, missing⟩ | ⟨found, shaped⟩)
    · cases found : lookup "definitions" members with
      | none => simp [isDocumentShaped, found]
      | some value =>
          rw [field, found, Option.getD_some] at missing
          simp [isDocumentShaped, found, missing]
    · simp only [isDocumentShaped, found, List.all_eq_true, Bool.or_eq_true, Bool.not_eq_true']
      intro entry member
      by_cases inner : entry.2.isObject = true
      · exact .inr ((isWellShaped_iff entry.2).mpr (shaped entry member inner))
      · exact .inl (Bool.eq_false_iff.mpr inner)

instance (value : Json) : Decidable (WellShaped marker value) :=
  decidable_of_iff _ (isWellShaped_iff value)

instance (document : Json) : Decidable (DocumentShaped marker document) :=
  decidable_of_iff _ isDocumentShaped_iff

end

/-- The descriptions of an enumeration are texts or missing. -/
structure Enumeration.WellTyped (values : Enumeration) : Prop where
  place : IsRemark values.place.description
  descriptions : ∀ description ∈ values.descriptions, IsRemark description

/-- A fragment of a property: references and type names are texts, and so are the
descriptions that are not missing. -/
inductive Fragment.WellTyped : Fragment → Prop where
  | primitive {place : Place} (name : Text) : WellTyped (.primitive place (.text name))
  | enumeration {values : Enumeration} (typed : values.WellTyped) :
      WellTyped (.enumeration values)
  | typeList {place : Place} (names : List Text) : WellTyped (.typeList place (names.map .text))
  | reference {place : Place} (target : Text) : WellTyped (.reference ⟨place, .text target⟩)
  | array {place : Place} {items : Option Fragment}
      (inner : ∀ fragment, items = some fragment → WellTyped fragment) :
      WellTyped (.array place items)
  | object {shape : ObjectShape Fragment} (place : IsRemark shape.place.description)
      (described : ∀ property ∈ shape.properties, IsRemark property.place.description)
      (types : ∀ property ∈ shape.properties, ∀ fragment,
        property.fragment = some fragment → WellTyped fragment) :
      WellTyped (.object shape)

/-- A property whose fragment is well-typed, if there is one. -/
structure Property.WellTyped (property : Property Fragment) : Prop where
  described : IsRemark property.place.description
  fragment : ∀ inner, property.fragment = some inner → inner.WellTyped

theorem Fragment.WellTyped.properties {shape : ObjectShape Fragment}
    (typed : (Fragment.object shape).WellTyped) :
    ∀ property ∈ shape.properties, property.WellTyped := by
  intro property member
  cases typed with
  | object place described types => exact ⟨described property member, types property member⟩

/-- A body of a definition: an enumeration, an object, or a reference together with an
object, each of which may be missing. -/
inductive Fragment.BodyTyped : Fragment → Prop where
  | enumeration {values : Enumeration} (typed : values.WellTyped) :
      BodyTyped (.enumeration values)
  | object {shape : ObjectShape Fragment} (typed : (Fragment.object shape).WellTyped) :
      BodyTyped (.object shape)
  | composition {place : Place} {base extension : Option Fragment}
      (described : IsRemark place.description)
      (referring : ∀ fragment, base = some fragment →
        ∃ place target, fragment = .reference ⟨place, .text target⟩)
      (inline : ∀ fragment, extension = some fragment →
        ∃ shape, fragment = .object shape ∧ fragment.WellTyped) :
      BodyTyped (.composition place base extension)

theorem Fragment.BodyTyped.described {body : Fragment} (typed : body.BodyTyped) :
    IsRemark body.place.description := by
  cases typed with
  | enumeration values => exact values.place
  | object inner =>
      cases inner with
      | object place described types => exact place
  | composition described referring inline => exact described

/-- A definition with a body whose fragments are well-typed. -/
def Definition.WellTyped (definition : Definition) : Prop :=
  ∃ body, definition.body = some body ∧ body.BodyTyped

end ProtocolBindings.Schema
