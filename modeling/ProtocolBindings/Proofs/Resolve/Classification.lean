import ProtocolBindings.Proofs.Model.Descriptor
import ProtocolBindings.Proofs.Reference
import ProtocolBindings.Proofs.Resolve.Nullability
import ProtocolBindings.Proofs.Schema.Reading

/-!
# Classification of fragments

The type of a fragment can be told from the object of the document that describes it, without
the fragment that is read of the object in between.  `classify` does so by the first of its
rules that applies, and comes to the type to which reading and inference come one after the
other, at any depth.
-/

namespace ProtocolBindings

open Json (lookup field hasKey)

namespace Schema

variable {marker : Json} {members : List (Text × Json)}

/-- An untyped object or a text, which may list its values. -/
def Textual (members : List (Text × Json)) : Prop :=
  field members "type" = .null ∨ field members "type" = .text "string"

instance (members : List (Text × Json)) : Decidable (Textual members) :=
  inferInstanceAs (Decidable (_ ∨ _))

theorem Textual.ne {value : Json} (textual : Textual members) (stated : value ≠ .null)
    (noText : value ≠ .text "string") : field members "type" ≠ value := by
  rcases textual with type | type
  · rw [type]
    exact stated.symm
  · rw [type]
    exact noText.symm

theorem Textual.noList (textual : Textual members) (types : List Json) :
    field members "type" ≠ .array types :=
  textual.ne nofun nofun

/-- The forms of objects, one rule for each way in which a form is found. -/
inductive Formed (marker : Json) (members : List (Text × Json)) : Form → Prop where
  | reference {target : Json} (found : lookup "$ref" members = some target) :
      Formed marker members (.reference target)
  | typeList {types : List Json} (direct : lookup "$ref" members = none)
      (listed : field members "type" = .array types) : Formed marker members (.typeList types)
  | array (direct : lookup "$ref" members = none)
      (typed : field members "type" = .text "array") : Formed marker members .array
  | object (direct : lookup "$ref" members = none)
      (typed : field members "type" = .text "object") : Formed marker members .object
  | untyped (direct : lookup "$ref" members = none) (untyped : field members "type" = .null)
      (unlisted : lookup "enum" members = none) (unmarked : Json.atKey members marker = .ok none)
      (declared : hasKey "properties" members = true) : Formed marker members .object
  | closed {values : Json} (direct : lookup "$ref" members = none) (textual : Textual members)
      (listed : lookup "enum" members = some values) :
      Formed marker members (.enumeration values false)
  | opened {values : Json} (direct : lookup "$ref" members = none) (textual : Textual members)
      (unlisted : lookup "enum" members = none)
      (marked : Json.atKey members marker = .ok (some values)) :
      Formed marker members (.enumeration values true)
  | primitive {typeName : Json} (direct : lookup "$ref" members = none)
      (typed : field members "type" = typeName) (single : ∀ types, typeName ≠ .array types)
      (noArray : typeName ≠ .text "array") (noObject : typeName ≠ .text "object")
      (undeclared : typeName = .null → hasKey "properties" members = false)
      (plain : Textual members →
        lookup "enum" members = none ∧ Json.atKey members marker = .ok none) :
      Formed marker members (.primitive (if typeName.truthy then typeName else .text ""))

/-- What remains of an object without a list of values is an untyped object with properties or
a primitive. -/
theorem formed_plainForm (direct : lookup "$ref" members = none)
    (single : ∀ types, field members "type" ≠ .array types)
    (noArray : field members "type" ≠ .text "array")
    (noObject : field members "type" ≠ .text "object")
    (plain : Textual members →
      lookup "enum" members = none ∧ Json.atKey members marker = .ok none) :
    Formed marker members (plainForm members) := by
  unfold plainForm
  by_cases untyped : field members "type" = .null
  · obtain ⟨unlisted, unmarked⟩ := plain (.inl untyped)
    cases declared : hasKey "properties" members with
    | true =>
        simp only [untyped, decide_true, Bool.and_self, if_true]
        exact .untyped direct untyped unlisted unmarked declared
    | false =>
        simp only [Bool.and_false, Bool.false_eq_true, if_false]
        exact .primitive direct rfl single noArray noObject (fun _ => declared) plain
  · simp only [untyped, decide_false, Bool.false_and, Bool.false_eq_true, if_false]
    exact .primitive direct rfl single noArray noObject (fun missing => (untyped missing).elim)
      plain

/-- An untyped object or a text is looked up under both keys of listed values. -/
theorem formed_of_textual {form rest : Form} (direct : lookup "$ref" members = none)
    (textual : Textual members)
    (plain : lookup "enum" members = none → Json.atKey members marker = .ok none →
      Formed marker members rest)
    (found : (match lookup "enum" members with
      | some values => .ok (.enumeration values false)
      | none => do
          match ← Json.atKey members marker with
          | some values => return .enumeration values true
          | none => return rest : Except Misuse Form) = .ok form) :
    Formed marker members form := by
  split at found
  · next values listed =>
      cases found
      exact .closed direct textual listed
  · next unlisted =>
      obtain ⟨looked, marked, found⟩ := bind_eq_ok_iff.mp found
      cases looked with
      | some values =>
          cases found
          exact .opened direct textual unlisted marked
      | none =>
          cases found
          exact plain unlisted marked

theorem formed_of_formOf {form : Form} (found : formOf marker members = .ok form) :
    Formed marker members form := by
  unfold formOf at found
  split at found
  · next target referring =>
      cases found
      exact .reference referring
  · next direct =>
      split at found
      · next types listed =>
          cases found
          exact .typeList direct listed
      · next single =>
          split_ifs at found with array object textual
          · cases found
            exact .array direct array
          · cases found
            exact .object direct object
          · rw [Bool.or_eq_true, decide_eq_true_iff, decide_eq_true_iff] at textual
            apply formed_of_textual direct textual _ found
            intro unlisted unmarked
            exact formed_plainForm direct single array object fun _ => ⟨unlisted, unmarked⟩
          · rw [Bool.or_eq_true, decide_eq_true_iff, decide_eq_true_iff] at textual
            cases found
            exact formed_plainForm direct single array object fun named => (textual named).elim

end Schema

namespace Resolve

open Model
open Schema (Form Formed Fragment Textual formOf formed_of_formOf readFragment readAt shapeOf)

/-! ## Rules -/

/-- The name that a reference stands for. -/
def referredName : Json → Text
  | .text reference => (Reference.name? reference).getD reference
  | _ => ""

/-- The type that a list of names stands for. -/
def listType (types : List Json) (required : Bool) : TypeDescriptor :=
  match collapse standardMembers types required "" "" with
  | .ok type => type
  | .error _ => .any

/-- The type of an object: a record, a mapping or any value. -/
def objectType (name : Text) (members : List (Text × Json)) : TypeDescriptor :=
  if hasKey "properties" members then .anonymousObject name false
  else match lookup "additionalProperties" members with
    | some (.bool true) | some (.object _) => .mapOf (.scalar .string false) false
    | _ => .any

/-- Whether an object has values under the marker of open enumerations. -/
def isMarked (marker : Json) (members : List (Text × Json)) : Bool :=
  match Json.atKey members marker with
  | .ok (some _) => true
  | _ => false

/-- Whether an object is untyped, lists no values, and has properties. -/
def isRecord (marker : Json) (members : List (Text × Json)) : Bool :=
  field members "type" = .null && !hasKey "enum" members && !isMarked marker members &&
    hasKey "properties" members

/-- The type by the first rule that applies, but for its nullability.  The type of the items
of an array is that of the value under their key. -/
def ruledType (marker : Json) (position : Position) (items : TypeDescriptor)
    (members : List (Text × Json)) : TypeDescriptor :=
  match lookup "$ref" members, field members "type" with
  | some target, _ => .reference (referredName target) false
  | none, .array types => listType types position.required
  | none, type =>
      if type = .text "array" then .arrayOf items false
      else if type = .text "object" || isRecord marker members then
        objectType position.entityName members
      else if Textual members ∧ hasKey "enum" members then
        .inlineEnum position.entityName false
      else if Textual members ∧ isMarked marker members then
        .suggestedText position.entityName false
      else namedType type

/-- Whether an object that is no reference has null as its type or among its types. -/
def admitsNull (members : List (Text × Json)) : Bool :=
  match lookup "$ref" members, field members "type" with
  | none, .text name => name == "null"
  | none, .array types => decide (.text "null" ∈ types)
  | _, _ => false

mutual

/-- The type of a fragment at a position, from the value that describes the fragment. -/
def classify (marker : Json) (position : Position) : Json → TypeDescriptor
  | .object members =>
      (ruledType marker position (classifyItems marker position.ofItems members)
        members).withNullable (!position.required || admitsNull members)
  | _ => .any

/-- The type of the items, which may be anything unless an object describes them. -/
def classifyItems (marker : Json) (position : Position) : List (Text × Json) → TypeDescriptor
  | [] => .any
  | (name, value) :: members =>
      if name = "items" then classify marker position value
      else classifyItems marker position members

end

theorem classifyItems_eq (marker : Json) (position : Position) (members : List (Text × Json)) :
    classifyItems marker position members =
      classify marker position ((lookup "items" members).getD .null) := by
  induction members with
  | nil => rfl
  | cons member members ih =>
      obtain ⟨name, value⟩ := member
      rw [classifyItems, lookup]
      split
      · rfl
      · exact ih

theorem classify_of_not_object {marker value : Json} {position : Position}
    (plain : value.isObject = false) : classify marker position value = .any := by
  cases value with
  | object members => cases plain
  | _ => rfl

/-! ## Forms -/

/-- The type of what has a form, but for its nullability. -/
def typeOfForm (position : Position) (items : TypeDescriptor) (members : List (Text × Json)) :
    Form → TypeDescriptor
  | .reference target => .reference (referredName target) false
  | .typeList types => listType types position.required
  | .array => .arrayOf items false
  | .object => objectType position.entityName members
  | .enumeration _ isOpen =>
      if isOpen then .suggestedText position.entityName false
      else .inlineEnum position.entityName false
  | .primitive typeName => namedType typeName

def formNamesNull : Form → Bool
  | .typeList types => decide (.text "null" ∈ types)
  | .primitive typeName => isNullName typeName
  | _ => false

variable {marker : Json} {members : List (Text × Json)} {position : Position}

/-- The rules for objects that are no references and whose type is no list. -/
theorem ruledType_of_single (direct : lookup "$ref" members = none)
    (single : ∀ types, field members "type" ≠ .array types) (items : TypeDescriptor) :
    ruledType marker position items members =
      if field members "type" = .text "array" then .arrayOf items false
      else if field members "type" = .text "object" || isRecord marker members then
        objectType position.entityName members
      else if Textual members ∧ hasKey "enum" members then
        .inlineEnum position.entityName false
      else if Textual members ∧ isMarked marker members then
        .suggestedText position.entityName false
      else namedType (field members "type") := by
  unfold ruledType
  rw [direct]
  generalize field members "type" = type at single
  cases type with
  | array types => exact (single types rfl).elim
  | _ => rfl

theorem ruledType_of_textual (direct : lookup "$ref" members = none)
    (textual : Textual members) (noRecord : isRecord marker members = false)
    (items : TypeDescriptor) :
    ruledType marker position items members =
      if hasKey "enum" members then .inlineEnum position.entityName false
      else if isMarked marker members then .suggestedText position.entityName false
      else namedType (field members "type") := by
  have noArray : field members "type" ≠ .text "array" := textual.ne nofun (by decide)
  have noObject : field members "type" ≠ .text "object" := textual.ne nofun (by decide)
  rw [ruledType_of_single direct textual.noList, if_neg noArray]
  simp [noObject, noRecord, textual]

/-- A type name that counts as false is no name of anything. -/
theorem ofName_eq (typeName : Json) :
    namedType (if typeName.truthy then typeName else .text "") = namedType typeName ∧
      formNamesNull (.primitive (if typeName.truthy then typeName else .text "")) =
        formNamesNull (.primitive typeName) := by
  split
  · exact ⟨rfl, rfl⟩
  · next falsy =>
      cases typeName with
      | text name =>
          cases name with
          | nil => exact ⟨rfl, rfl⟩
          | cons symbol symbols => exact (falsy rfl).elim
      | _ => exact ⟨rfl, rfl⟩

theorem ruledType_of_formed {form : Form} (formed : Formed marker members form)
    (items : TypeDescriptor) :
    ruledType marker position items members = typeOfForm position items members form := by
  cases formed with
  | reference found => rw [ruledType, found]; rfl
  | typeList direct listed => rw [ruledType, direct, listed]; rfl
  | array direct typed =>
      rw [ruledType_of_single direct (by rw [typed]; exact nofun), if_pos typed]
      rfl
  | object direct typed =>
      rw [ruledType_of_single direct (by rw [typed]; exact nofun), typed]
      rfl
  | untyped direct untyped unlisted unmarked declared =>
      have record : isRecord marker members = true := by
        simpa [isRecord, untyped, hasKey, unlisted, isMarked, unmarked] using declared
      rw [ruledType_of_single direct (Textual.noList (.inl untyped)), untyped, record]
      rfl
  | closed direct textual listed =>
      have listing : hasKey "enum" members = true := by rw [hasKey, listed]; rfl
      have record : isRecord marker members = false := by simp [isRecord, listing]
      rw [ruledType_of_textual direct textual record, if_pos listing]
      rfl
  | opened direct textual unlisted marked =>
      have listing : hasKey "enum" members = false := by rw [hasKey, unlisted]; rfl
      have marking : isMarked marker members = true := by rw [isMarked, marked]
      have record : isRecord marker members = false := by simp [isRecord, marking]
      rw [ruledType_of_textual direct textual record, if_neg (Bool.eq_false_iff.mp listing),
        if_pos marking]
      rfl
  | @primitive typeName direct typed single noArray noObject undeclared plain =>
      have record : isRecord marker members = false := by
        by_cases untyped : typeName = .null
        · simp [isRecord, undeclared untyped]
        · simp [isRecord, typed, untyped]
      have listing : ¬ (Textual members ∧ hasKey "enum" members = true) := by
        rintro ⟨textual, listed⟩
        rw [hasKey, (plain textual).1] at listed
        cases listed
      have marking : ¬ (Textual members ∧ isMarked marker members = true) := by
        rintro ⟨textual, marked⟩
        rw [isMarked, (plain textual).2] at marked
        cases marked
      rw [ruledType_of_single direct (typed ▸ single), typed, if_neg noArray, if_neg listing,
        if_neg marking, record, typeOfForm, (ofName_eq typeName).1]
      simp [noObject]

theorem admitsNull_of_textual (textual : Textual members) : admitsNull members = false := by
  unfold admitsNull
  rcases textual with type | type
  all_goals
    rw [type]
    cases lookup "$ref" members <;> rfl

theorem admitsNull_of_formed {form : Form} (formed : Formed marker members form) :
    admitsNull members = formNamesNull form := by
  cases formed with
  | reference found => rw [admitsNull, found]; rfl
  | typeList direct listed => rw [admitsNull, direct, listed]; rfl
  | array direct typed => rw [admitsNull, direct, typed]; rfl
  | object direct typed => rw [admitsNull, direct, typed]; rfl
  | untyped direct untyped unlisted unmarked declared =>
      exact admitsNull_of_textual (.inl untyped)
  | closed direct textual listed => exact admitsNull_of_textual textual
  | opened direct textual unlisted marked => exact admitsNull_of_textual textual
  | @primitive typeName direct typed single noArray noObject undeclared plain =>
      rw [admitsNull, direct, typed, (ofName_eq typeName).2]
      cases typeName with
      | array types => exact (single types rfl).elim
      | _ => rfl

/-- The type of a fragment of a form at a position. -/
def formType (position : Position) (items : TypeDescriptor) (members : List (Text × Json))
    (form : Form) : TypeDescriptor :=
  (typeOfForm position items members form).withNullable
    (!position.required || formNamesNull form)

theorem formType_of_unnamed {form : Form} (unnamed : formNamesNull form = false)
    (items : TypeDescriptor) :
    formType position items members form =
      (typeOfForm position items members form).withNullable (!position.required) := by
  rw [formType, unnamed, Bool.or_false]

theorem classify_of_formOf {form : Form} (found : formOf marker members = .ok form) :
    classify marker position (.object members) =
      formType position (classifyItems marker position.ofItems members) members form := by
  have formed := formed_of_formOf found
  rw [classify, ruledType_of_formed formed, admitsNull_of_formed formed, formType]

/-! ## Inference -/

variable {known : Text → Bool} {strict : Bool}

theorem referredName_of_follow {owner target : Text} {link : Schema.Link}
    (followed : (Reference.follow known strict owner link).outcome = .ok target) :
    referredName link.target = target := by
  cases written : link.target with
  | text reference =>
      rw [referredName]
      cases named : Reference.name? reference with
      | some name => exact ((Reference.follow_ok_iff_of_name written named).mp followed).1
      | none => exact ((Reference.follow_ok_iff_of_malformed written named).mp followed).2
  | _ => simp [Reference.follow, written, Processing.misused] at followed

/-- The owner and the path of a list are for messages only. -/
theorem listType_of_collapse {types : List Json} {required : Bool} {owner path : Text}
    {type : TypeDescriptor}
    (collapsed : collapse standardMembers types required owner path = .ok type) :
    listType types required = type := by
  have same : collapse standardMembers types required "" "" = .ok type := by
    obtain ⟨everything, named, rest⟩ := bind_eq_ok_iff.mp collapsed
    refine bind_eq_ok_iff.mpr ⟨everything, named, ?_⟩
    cases everything with
    | true => exact rest
    | false =>
        obtain ⟨scalars, collected, rest⟩ := bind_eq_ok_iff.mp rest
        refine bind_eq_ok_iff.mpr ⟨scalars, collected, ?_⟩
        cases scalars with
        | none => exact rest
        | some scalars => exact ofScalars_eq_ok_iff.mpr (ofScalars_eq_ok_iff.mp rest)
  rw [listType, same]

/-- Only objects are read as fragments of their own. -/
theorem readAt_ok {path key : Text} {described : Option Fragment}
    (read : (readAt marker path key members).outcome = .ok described) :
    (described = none ∧ ((lookup key members).getD .null).isObject = false) ∨
      ∃ inner fragment, described = some fragment ∧ lookup key members = some (.object inner) ∧
        (readFragment marker path (.object inner)).outcome = .ok fragment := by
  rw [Schema.readAt_eq] at read
  cases found : lookup key members with
  | none =>
      rw [found] at read
      cases read
      exact .inl ⟨rfl, rfl⟩
  | some value =>
      rw [found] at read
      cases value with
      | object inner =>
          obtain ⟨fragment, readInner, rfl⟩ := Traced.outcome_map_eq_ok_iff.mp read
          exact .inr ⟨inner, fragment, rfl, rfl, readInner⟩
      | _ =>
          cases read
          exact .inl ⟨rfl, rfl⟩

theorem additionalType_shapeOf {described : Option Fragment} {path : Text} (name place : Text)
    (properties : List (Schema.Property Fragment))
    (undeclared : hasKey "properties" members = false)
    (read : (readAt marker path "additionalProperties" members).outcome = .ok described) :
    additionalType (shapeOf place members properties described).additional =
      objectType name members := by
  rw [objectType, undeclared, if_neg Bool.false_ne_true]
  obtain ⟨rfl, plain⟩ | ⟨inner, fragment, rfl, found, -⟩ := readAt_ok read
  · simp only [shapeOf]
    split_ifs with anything
    · rw [anything]
      rfl
    · split
      · next found => exact (anything found).elim
      · next inner found => rw [found] at plain; cases plain
      · rfl
  · rw [found]
    rfl

/-! ## Fragments -/

theorem type_of_enumeration {values : Schema.Enumeration} :
    (ofEnumeration position values).type =
      (if values.isOpen then TypeDescriptor.suggestedText position.entityName false
        else .inlineEnum position.entityName false).withNullable (!position.required) := by
  rw [ofEnumeration]
  cases values.isOpen <;> rfl

theorem isOpen_of_readEnumeration {values : Json} {path : Text} {isOpen : Bool}
    {enumeration : Schema.Enumeration}
    (read : (Schema.readEnumeration members values path isOpen).outcome = .ok enumeration) :
    enumeration.isOpen = isOpen := by
  rw [Schema.readEnumeration, Traced.outcome_bind_eq_ok_iff] at read
  obtain ⟨items, -, read⟩ := read
  obtain ⟨entries, -, read⟩ := Traced.outcome_bind_eq_ok_iff.mp read
  cases read
  rfl

/-- A value that is read as a fragment has the type of its class, wherever it stands. -/
def TypedAsClassified (marker value : Json) : Prop :=
  ∀ path position known strict parsed inference,
    (readFragment marker path value).outcome = .ok parsed →
    Inferred (Reference.follow known strict) position parsed inference →
    inference.type = classify marker position value

theorem typedAsClassified_object
    (items : ∀ inner, lookup "items" members = some (.object inner) →
      TypedAsClassified marker (.object inner)) :
    TypedAsClassified marker (.object members) := by
  intro path position known strict parsed inference read inferred
  rw [readFragment, Traced.outcome_bind_eq_ok_iff] at read
  obtain ⟨form, formed, read⟩ := read
  rw [classify_of_formOf (mapError_eq_ok_iff.mp formed)]
  cases form with
  | reference target =>
      cases read
      cases inferred with
      | settled settles => cases settles
      | reference followed =>
          rw [formType_of_unnamed rfl, typeOfForm, referredName_of_follow followed]
          rfl
  | typeList types =>
      cases read
      cases inferred with
      | settled settles =>
          have collapsed := Option.some.inj settles
          rw [formType, typeOfForm, listType_of_collapse collapsed, formNamesNull,
            ← collapse_nullable collapsed, TypeDescriptor.withNullable_nullable]
  | array =>
      obtain ⟨parsedItems, itemsRead, ended⟩ := Traced.outcome_bind_eq_ok_iff.mp read
      cases ended
      rw [formType_of_unnamed rfl, typeOfForm, classifyItems_eq]
      obtain ⟨rfl, plain⟩ | ⟨inner, fragment, rfl, found, readInner⟩ := readAt_ok itemsRead
      · rw [classify_of_not_object plain]
        cases inferred with
        | settled settles =>
            cases settles
            rfl
      · cases inferred with
        | settled settles => cases settles
        | array inferredInner =>
            rw [found, items inner found _ _ _ _ _ _ readInner inferredInner]
            rfl
  | object =>
      obtain ⟨properties, -, read⟩ := Traced.outcome_bind_eq_ok_iff.mp read
      obtain ⟨described, additionalRead, ended⟩ := Traced.outcome_bind_eq_ok_iff.mp read
      cases ended
      rw [formType_of_unnamed rfl, typeOfForm]
      cases inferred with
      | settled settles =>
          rw [settled?] at settles
          split at settles
          · cases settles
          · next undeclared =>
              have typed := type_of_ofUndeclared (Option.some.inj settles)
              rwa [additionalType_shapeOf position.entityName path properties
                (Bool.eq_false_iff.mpr undeclared) additionalRead] at typed
      | record declared absent present =>
          have keyed : hasKey "properties" members = true := declared
          rw [objectType, if_pos keyed]
          rfl
  | enumeration values isOpen =>
      obtain ⟨enumeration, listed, ended⟩ := Traced.outcome_bind_eq_ok_iff.mp read
      cases ended
      cases inferred with
      | settled settles => cases settles
      | enumeration =>
          rw [type_of_enumeration, isOpen_of_readEnumeration listed, formType_of_unnamed rfl]
          rfl
  | primitive typeName =>
      cases read
      cases inferred with
      | settled settles =>
          have named := mapError_eq_ok_iff.mp (Option.some.inj settles)
          exact type_of_ofTypeName named

theorem typedAsClassified (marker value : Json) : TypedAsClassified marker value := by
  induction value using Json.induct with
  | other value plain =>
      intro path position known strict parsed inference read
      cases value with
      | object members => cases plain
      | _ => cases read
  | object members ih =>
      -- Of what is inside, only the items of an array have a part in the type.
      apply typedAsClassified_object
      exact fun inner found => ih _ (Json.mem_of_lookup found)

/-- A well-shaped value is read as a fragment, and whatever value is read as one has the type
of its class, at every position and for all known definitions at which its type is inferred.
A reference hides whatever else is said beside it. -/
theorem type_eq_classify (marker : Text) (value : Json) (path : Text) :
    (Schema.WellShaped marker value →
      ∃ parsed, (readFragment (.text marker) path value).outcome = .ok parsed) ∧
    ∀ parsed, (readFragment (.text marker) path value).outcome = .ok parsed →
      ∀ known strict position inference,
        (infer (Reference.follow known strict) position parsed).outcome = .ok inference →
          inference.type = classify (.text marker) position value := by
  constructor
  · intro shaped
    obtain ⟨parsed, read, -⟩ := (shaped.reads path).exists_ok
    exact ⟨parsed, read⟩
  · intro parsed read known strict position inference inferred
    exact typedAsClassified _ _ _ _ _ _ _ _ read (infer_ok_iff.mp inferred)

/-- An array of arrays of values that are listed beside properties. -/
def gridValue : Json :=
  .object [("type", .text "array"), ("items",
    .object [("type", .text "array"), ("items",
      .object [("enum", .array [.text "free", .text "taken"]), ("properties", .object [])])])]

theorem type_eq_classify_gridValue :
    let position : Position := { anchor := "Board", property := "cells", required := false }
    ∃ parsed inference, (readFragment (.text "_enum") "#/cells" gridValue).outcome = .ok parsed ∧
      (infer (Reference.follow (fun _ => false) true) position parsed).outcome = .ok inference ∧
      inference.type = .arrayOf (.arrayOf (.inlineEnum "BoardCells" false) false) true := by
  intro position
  obtain ⟨reads, classified⟩ := type_eq_classify "_enum" gridValue "#/cells"
  have shaped : Schema.WellShaped "_enum" gridValue := by decide +kernel
  obtain ⟨parsed, read⟩ := reads shaped
  have succeeds : (readFragment (.text "_enum") "#/cells" gridValue >>=
      infer (Reference.follow (fun _ => false) true) position).outcome.isOk = true := by
    decide +kernel
  rw [Traced.bind_of_ok _ read] at succeeds
  have inferred := Traced.outcome_eq_valueOr { type := .any } succeeds
  exact ⟨parsed, _, read, inferred, classified parsed read _ _ _ _ inferred⟩

end Resolve

end ProtocolBindings
