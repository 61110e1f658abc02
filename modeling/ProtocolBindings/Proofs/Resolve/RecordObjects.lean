import ProtocolBindings.Proofs.Resolve.Classification
import ProtocolBindings.Proofs.Resolve.NamePaths
import ProtocolBindings.Proofs.Schema.Definitions
import ProtocolBindings.Proofs.Schema.Parts

/-!
# Objects of records

The properties of every record of a model are those that an object of the document declares, one
for one and in order: the object of a definition, the inline object of a composition, or an
object among the items or the properties of another.
-/

namespace ProtocolBindings

open Json (field lookup)

namespace Schema

/-- The objects inside a value of the document that can describe a record.  A composition
without an inline object holds an empty one. -/
inductive HoldsObject : Json → List (Text × Json) → Prop where
  | self {members : List (Text × Json)} : HoldsObject (.object members) members
  | bare {members : List (Text × Json)} {composed : Json}
      (found : lookup "allOf" members = some composed) (bare : inlineObjects members = []) :
      HoldsObject (.object members) []
  | inline {members own object : List (Text × Json)} (among : own ∈ inlineObjects members)
      (inner : HoldsObject (.object own) object) : HoldsObject (.object members) object
  | property {members object : List (Text × Json)} {name : Text} {value : Json}
      (declared : (name, value) ∈ declaredEntries members) (inner : HoldsObject value object) :
      HoldsObject (.object members) object
  | items {members object : List (Text × Json)} {value : Json}
      (found : lookup "items" members = some value) (inner : HoldsObject value object) :
      HoldsObject (.object members) object

theorem HoldsObject.trans {value : Json} {members object : List (Text × Json)}
    (outer : HoldsObject value members) (inner : HoldsObject (.object members) object) :
    HoldsObject value object := by
  induction outer with
  | self => exact inner
  | bare found bare =>
      cases inner with
      | self => exact .bare found bare
      | bare missing => cases missing
      | inline among => cases among
      | property declared => cases declared
      | items missing => cases missing
  | inline among _ ih => exact .inline among (ih inner)
  | property declared _ ih => exact .property declared (ih inner)
  | items found _ ih => exact .items found (ih inner)

variable {marker : Json}

/-- The fragment under a key is read of the value found there. -/
theorem exists_of_readAt {path key : Text} {members : List (Text × Json)} {fragment : Fragment}
    (read : (readAt marker path key members).outcome = .ok (some fragment)) :
    ∃ value, lookup key members = some value ∧
      (readFragment marker path value).outcome = .ok fragment := by
  rw [readAt_eq] at read
  cases found : lookup key members with
  | none =>
      rw [found] at read
      cases read
  | some value =>
      rw [found] at read
      cases value with
      | object inner =>
          obtain ⟨own, ended, same⟩ := Traced.outcome_map_eq_ok_iff.mp read
          cases same
          exact ⟨_, rfl, ended⟩
      | null | bool _ | integer _ | number _ | text _ | array _ => cases read

/-- A declared property is read of an entry. -/
theorem exists_declared_of_mem {members : List (Text × Json)} {shape : ObjectShape Fragment}
    (shaped : ReadsShape marker members shape) {property : Property Fragment}
    (member : property ∈ shape.properties) :
    ∃ name value, (name, value) ∈ declaredEntries members ∧
      ∃ path fragment, property.fragment = some fragment ∧
        (readFragment marker path value).outcome = .ok fragment := by
  obtain ⟨path, read⟩ := shaped
  obtain ⟨⟨name, value⟩, declared, reads⟩ :=
    exists_mem_of_forall₂ (readsProperties_of_readObject read) property member
  cases reads with
  | entry read held => exact ⟨_, _, declared, _, _, rfl, read⟩

/-- A value of the document that lists types, null among them. -/
inductive ListsNull : Json → Prop where
  | among {members : List (Text × Json)} {types : List Json}
      (direct : lookup "$ref" members = none) (listed : field members "type" = .array types)
      (null : .text "null" ∈ types) : ListsNull (.object members)

theorem listsNull_iff_of_read {path : Text} {value : Json} {fragment : Fragment}
    (read : (readFragment marker path value).outcome = .ok fragment) :
    ListsNull value ↔
      ∃ place types, fragment = .typeList place types ∧ .text "null" ∈ types := by
  obtain ⟨members, form, rfl, found, reads⟩ := exists_form_of_readFragment read
  constructor
  · rintro ⟨direct, listed, null⟩
    rw [formOf, direct, listed] at found
    cases found
    cases reads with
    | typeList => exact ⟨_, _, rfl, null⟩
  · rintro ⟨place, types, rfl, null⟩
    cases reads with
    | typeList =>
        cases formed_of_formOf found with
        | typeList direct listed => exact .among direct listed null

end Schema

namespace Resolve

open Model
open Schema (Definition HoldsObject Fragment ListsNull ObjectShape Property ReadAs ReadsProperty
  ReadsShape declaredEntries definition? entriesOf readFragment requiredNames)
open Reference (Follow)

variable {marker : Json} {follow : Follow}

/-! ## Properties -/

/-- A property of a record to which an entry of an object is resolved. -/
inductive ResolvesEntry (marker : Json) (follow : Follow) (required : Json) :
    Text × Json → RecordProperty → Prop where
  | entry {path name : Text} {value : Json} {fragment : Fragment} {position : Position}
      {inference : Inference}
      (read : (readFragment marker path value).outcome = .ok fragment)
      (held : required.holdsText name = .ok position.required)
      (inferred : Inferred follow position fragment inference) :
      ResolvesEntry marker follow required (name, value) {
        name := name
        type := inference.type
        required := position.required
        description := Schema.descriptionOf value }

/-- The properties of a record to which the entries of an object are resolved. -/
def ResolvesObject (marker : Json) (follow : Follow) (members : List (Text × Json)) :
    List RecordProperty → Prop :=
  List.Forall₂ (ResolvesEntry marker follow (requiredNames members)) (declaredEntries members)

theorem resolvesEntries_of_inferred {path owner name : Text} {required : Json}
    {entries : List (Text × Json)} {properties : List (Property Fragment)}
    {inferenceOf : Property Fragment → Inference}
    (each : List.Forall₂ (ReadsProperty marker path required) entries properties)
    (inferred : InferredProperties follow owner name properties inferenceOf) :
    List.Forall₂ (ResolvesEntry marker follow required) entries
      (properties.map fun property => resolvedProperty property (inferenceOf property)) := by
  induction each with
  | nil => exact .nil
  | @cons entry property _ _ reads _ ih =>
      have typed := inferred property List.mem_cons_self
      refine .cons ?_ (ih fun other member => inferred other (List.mem_cons_of_mem _ member))
      cases reads with
      | entry read held =>
          have known : Inferred follow (propertyPosition owner name _) _ _ := typed
          exact (ResolvesEntry.entry read held known :)

theorem resolvesObject_of_inferred {members : List (Text × Json)} {shape : ObjectShape Fragment}
    {owner name : Text} {inferenceOf : Property Fragment → Inference}
    (shaped : ReadsShape marker members shape)
    (inferred : InferredProperties follow owner name shape.properties inferenceOf) :
    ResolvesObject marker follow members
      (shape.properties.map fun property => resolvedProperty property (inferenceOf property)) := by
  obtain ⟨path, read⟩ := shaped
  exact resolvesEntries_of_inferred (Schema.readsProperties_of_readObject read) inferred

/-! ## Null -/

/-- A fragment that names null, and does not stand for any value, lists it among its types. -/
theorem Inferred.exists_types_of_namesNull {position : Position} {fragment : Fragment}
    {inference : Inference} (inferred : Inferred follow position fragment inference)
    (named : namesNull fragment = true) (limited : inference.type.kind ≠ .any) :
    ∃ place types, fragment = .typeList place types ∧ .text "null" ∈ types := by
  cases fragment with
  | typeList place types => exact ⟨place, types, rfl, of_decide_eq_true named⟩
  | primitive place typeName =>
      cases inferred with
      | settled settles =>
          have null : typeName = .text "null" := by
            cases typeName with
            | text name => rw [eq_of_beq named]
            | null | bool _ | integer _ | number _ | array _ | object _ => cases named
          subst null
          cases settles
          exact absurd rfl limited
  | enumeration _ | reference _ | array _ _ | object _ | composition _ _ _ => cases named

/-- The type of a property admits null if the property is not required or lists null among
its types. -/
theorem ResolvesEntry.nullable_iff {required : Json} {entry : Text × Json}
    {property : RecordProperty} (resolves : ResolvesEntry marker follow required entry property)
    (limited : property.type.kind ≠ .any) :
    property.type.nullable = true ↔ property.required = false ∨ ListsNull entry.2 := by
  cases resolves with
  | @entry _ _ _ fragment position _ read held inferred =>
      rw [inferred.nullable, Bool.or_eq_true, Bool.not_eq_true',
        Schema.listsNull_iff_of_read read]
      refine or_congr_right ⟨fun named => inferred.exists_types_of_namesNull named limited, ?_⟩
      rintro ⟨place, types, rfl, null⟩
      exact decide_eq_true null

/-! ## Inference -/

/-- The records among some entities are described by objects inside a value. -/
def RecordsWithin (marker : Json) (follow : Follow) (value : Json) (entities : List Entity) :
    Prop :=
  ∀ record, .record record ∈ entities → ∃ members, HoldsObject value members ∧
    ResolvesObject marker follow members record.properties

theorem recordsWithin_recordBlock {value : Json} {members : List (Text × Json)}
    {shape : ObjectShape Fragment} {owner name blockName : Text} {base : Option Text}
    {description : Json} {synthesized : Bool} {inferenceOf : Property Fragment → Inference}
    (holds : HoldsObject value members) (shaped : ReadsShape marker members shape)
    (inferred : InferredProperties follow owner name shape.properties inferenceOf)
    (each : ∀ property ∈ shape.properties, ∀ fragment, property.fragment = some fragment →
      ∀ {path value}, (readFragment marker path value).outcome = .ok fragment →
        RecordsWithin marker follow value (inferenceOf property).entities) :
    RecordsWithin marker follow value
      (recordBlock blockName base description synthesized shape.properties inferenceOf) := by
  intro record member
  rcases List.mem_cons.mp member with same | inner
  · cases same
    exact ⟨members, holds, resolvesObject_of_inferred shaped inferred⟩
  · obtain ⟨property, own, inside⟩ := List.mem_flatMap.mp inner
    obtain ⟨name, value, declared, path, fragment, typed, read⟩ :=
      Schema.exists_declared_of_mem shaped own
    obtain ⟨object, within, resolves⟩ := each property own fragment typed read record inside
    exact ⟨object, holds.trans (.property declared within), resolves⟩

/-- The records of an inference are described inside the value of its fragment. -/
theorem Inferred.recordsWithin {position : Position} {fragment : Fragment}
    {inference : Inference} (inferred : Inferred follow position fragment inference)
    {path : Text} {value : Json}
    (read : (readFragment marker path value).outcome = .ok fragment) :
    RecordsWithin marker follow value inference.entities := by
  induction inferred generalizing path value with
  | settled settles => exact nofun
  | reference followed => exact nofun
  | array inner ih =>
      obtain ⟨members, form, rfl, -, reads⟩ := Schema.exists_form_of_readFragment read
      cases reads with
      | array items =>
          obtain ⟨inner, found, itemsRead⟩ := Schema.exists_of_readAt items
          intro record member
          obtain ⟨object, within, resolves⟩ := ih itemsRead record member
          exact ⟨object, .items found within, resolves⟩
  | enumeration =>
      intro record member
      cases List.mem_singleton.mp member
  | @record position shape inferenceOf declared absent present ih =>
      obtain ⟨members, form, rfl, -, reads⟩ := Schema.exists_form_of_readFragment read
      cases reads with
      | object shaped =>
          have inferred : InferredProperties follow position.recordOwner position.entityName
              shape.properties inferenceOf := by
            intro property member
            cases typed : property.fragment with
            | none => exact absent property member typed
            | some fragment => exact present property member fragment typed
          exact recordsWithin_recordBlock .self shaped inferred
            fun property member fragment typed => ih property member fragment typed

theorem InferredProperties.recordsWithin {value : Json} {members : List (Text × Json)}
    {shape : ObjectShape Fragment} {owner name blockName : Text} {base : Option Text}
    {description : Json} {inferenceOf : Property Fragment → Inference}
    (inferred : InferredProperties follow owner name shape.properties inferenceOf)
    (holds : HoldsObject value members) (shaped : ReadsShape marker members shape) :
    RecordsWithin marker follow value
      (recordBlock blockName base description false shape.properties inferenceOf) := by
  refine recordsWithin_recordBlock holds shaped inferred ?_
  intro property member fragment typed path value read
  have known := inferred property member
  rw [typed] at known
  exact Inferred.recordsWithin known read

/-! ## Contributions -/

/-- The object in which a message declares its properties stands inside of its entry. -/
theorem exists_members_of_messageObject? {entry : Text × Json} {message : Definition}
    (read : ReadAs marker entry message) {shape : ObjectShape Fragment}
    (declares : messageObject? message = some shape) :
    ∃ members, HoldsObject entry.2 members ∧ ReadsShape marker members shape := by
  cases read with
  | @object name members body read =>
      cases Schema.readsBody_of_readBody read with
      | @composition _ _ _ own found inline =>
          cases own with
          | none => cases declares
          | some own =>
              cases declares
              obtain ⟨object, others, shaped, -, only⟩ := List.forall₂_cons_right_iff.mp inline
              exact ⟨object, .inline (only ▸ List.mem_cons_self) .self, shaped⟩
      | enumeration => cases declares
      | object shaped =>
          cases declares
          exact ⟨members, .self, shaped⟩

/-- What a composition without an inline object adds to its base. -/
theorem holdsObject_nil_of_messageObject? {entry : Text × Json} {message : Definition}
    (read : ReadAs marker entry message) {place : Schema.Place} {base extension : Option Fragment}
    (formed : message.body = some (.composition place base extension))
    (bare : messageObject? message = none) : HoldsObject entry.2 [] := by
  cases read with
  | @object name members body read =>
      cases formed
      generalize whole : Fragment.composition place base extension = body at read
      cases Schema.readsBody_of_readBody read with
      | @composition _ _ _ own found inline =>
          cases whole
          cases own with
          | none => exact .bare found (List.forall₂_nil_right_iff.mp inline)
          | some own => cases bare
      | enumeration => cases whole
      | object => cases whole

theorem InferredPayload.recordsWithin {owner anchor property key : Text} {message : Definition}
    {inference : Option Inference} {entry : Text × Json} (read : ReadAs marker entry message)
    (inferred : InferredPayload follow owner anchor property (declared? message key) inference) :
    RecordsWithin marker follow entry.2 (payloadEntities inference) := by
  generalize declares : declared? message key = payload at inferred
  cases inferred with
  | absent => exact nofun
  | @present payload inference inferred =>
      obtain ⟨shape, found, own⟩ := Option.bind_eq_some_iff.mp declares
      have member : payload ∈ shape.properties := List.mem_of_find?_eq_some own
      obtain ⟨members, holds, shaped⟩ := exists_members_of_messageObject? read found
      obtain ⟨name, value, declared, path, fragment, typed, fragmentRead⟩ :=
        Schema.exists_declared_of_mem shaped member
      rw [typed] at inferred
      intro record inside
      obtain ⟨object, within, resolves⟩ :=
        Inferred.recordsWithin inferred fragmentRead record inside
      exact ⟨object, holds.trans (.property declared within), resolves⟩

section

variable {config : Config} {document version : Json} {definitions : List Definition}

/-- A record with properties that an object of the document declares. -/
def DescribedIn (marker : Json) (follow : Follow) (document : Json) (record : Record) : Prop :=
  ∃ entry ∈ entriesOf document, ∃ members, HoldsObject entry.2 members ∧
    ResolvesObject marker follow members record.properties

theorem RecordsWithin.describedIn {entry : Text × Json} {entities : List Entity}
    (within : RecordsWithin marker follow entry.2 entities) (among : entry ∈ entriesOf document)
    {record : Record} (member : .record record ∈ entities) :
    DescribedIn marker follow document record := by
  obtain ⟨members, holds, resolves⟩ := within record member
  exact ⟨entry, among, members, holds, resolves⟩

/-- The records that a definition contributes are described in the document. -/
theorem Contributed.describedIn {definition : Definition} {part : Contribution}
    (read : ∀ definition ∈ definitions, ∃ value,
      (definition.name, value) ∈ entriesOf document ∧
        ReadAs marker (definition.name, value) definition)
    (own : definition ∈ definitions)
    (contributed : Contributed config follow definitions definition part) :
    ∀ record, .record record ∈ part.entities → DescribedIn marker follow document record := by
  obtain ⟨value, among, entryRead⟩ := read definition own
  intro record member
  cases contributed with
  | @request _ _ _ _ _ response _ _ formed based inline fixed answered argued returned =>
      rcases List.mem_append.mp member with argument | result
      · rw [propertyNamed?_eq_declared? formed inline] at argued
        exact (argued.recordsWithin entryRead).describedIn among argument
      · obtain ⟨responseName, -, found⟩ := Option.bind_eq_some_iff.mp answered
        obtain ⟨other, present, otherRead⟩ := read response (List.mem_of_find?_eq_some found)
        rw [responseBody?_eq_declared?] at returned
        exact (returned.recordsWithin otherRead).describedIn present result
  | event formed based inline fixed carried =>
      rw [propertyNamed?_eq_declared? formed inline] at carried
      exact (carried.recordsWithin entryRead).describedIn among member
  | consumed formed based notRequest notEvent reserved => cases member
  | @extended _ _ _ _ shape _ formed based notRequest notEvent free inline inferred =>
      have declares := messageObject?_of_inline formed inline
      cases shape with
      | some shape =>
          obtain ⟨members, holds, shaped⟩ :=
            exists_members_of_messageObject? entryRead declares
          exact (inferred.recordsWithin holds shaped).describedIn among member
      | none =>
          have bare := holdsObject_nil_of_messageObject? entryRead formed declares
          cases List.mem_singleton.mp member
          exact ⟨_, among, [], bare, .nil⟩
  | enumeration formed => cases List.mem_singleton.mp member
  | @record shape _ formed inferred =>
      have declares : messageObject? definition = some shape := by rw [messageObject?, formed]
      obtain ⟨members, holds, shaped⟩ := exists_members_of_messageObject? entryRead declares
      exact (inferred.recordsWithin holds shaped).describedIn among member

/-- Every record of a model has the properties that an object of the document declares. -/
theorem describedIn_of_analyze {model : Model}
    (read : (Schema.read marker document).outcome = .ok definitions)
    (analyzed : (analyze config definitions version).outcome = .ok model) :
    ∀ record ∈ model.records,
      DescribedIn marker (followIn config definitions) document record := by
  intro record member
  obtain ⟨entity, among, own⟩ := List.mem_filterMap.mp member
  cases entity with
  | enumType content => cases own
  | record content =>
      cases own
      obtain ⟨-, contributionOf, each, -, rfl⟩ := analyze_ok_iff.mp analyzed
      obtain ⟨definition, present, part, contributed, inside⟩ :=
        exists_contributed_of_mem each among
      exact contributed.describedIn (Schema.exists_entry_of_read read) present record inside

end

end Resolve

end ProtocolBindings
