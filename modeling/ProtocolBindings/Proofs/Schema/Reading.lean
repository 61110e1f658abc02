import ProtocolBindings.Proofs.Failure
import ProtocolBindings.Proofs.Schema.WellShaped
import ProtocolBindings.Proofs.Traced

/-!
# Reading of well-shaped documents

A well-shaped value is always read, as a well-typed fragment.  The only objection
to a well-shaped document is a composition of several inline objects.
-/

namespace ProtocolBindings.Schema

open Json (lookup field hasKey IsRemark)
open Processing (checked)

/-! ## Forms -/

/-- A form whose reference and type names are texts and whose values are listed. -/
def Form.WellTyped : Form → Prop
  | .reference target => ∃ text, target = .text text
  | .typeList types => ∃ names : List Text, types = names.map .text
  | .enumeration values _ => ∃ items, values = .array items
  | .primitive typeName => ∃ name, typeName = .text name
  | .array | .object => True

variable {marker : Text} {members : List (Text × Json)}

namespace MembersTyped

theorem isRemark (typed : MembersTyped marker members) :
    IsRemark (field members "description") := by
  rcases Json.field_eq_null_or members "description" with missing | found
  · rw [missing]
    exact .null
  · exact typed.description _ found

theorem requiredNames (typed : MembersTyped marker members) :
    ∃ names : List Text, requiredNames members = .array (names.map .text) := by
  unfold Schema.requiredNames
  cases found : lookup "required" members with
  | none => exact ⟨[], rfl⟩
  | some value => exact typed.required value found

end MembersTyped

/-- Whether a type is missing or a single name. -/
inductive SingleType : Json → Prop where
  | missing : SingleType .null
  | named (name : Text) : SingleType (.text name)

theorem plainForm_wellTyped (single : SingleType (field members "type")) :
    (plainForm members).WellTyped := by
  unfold plainForm
  generalize field members "type" = typeName at single
  cases single with
  | missing =>
      cases hasKey "properties" members with
      | true => trivial
      | false => exact ⟨"", rfl⟩
  | named name =>
      cases name with
      | nil => exact ⟨"", rfl⟩
      | cons first rest => exact ⟨first :: rest, rfl⟩

/-- An untyped fragment or a text has a form of its own if it lists values. -/
private theorem enumerable_wellTyped (typed : MembersTyped marker members)
    (plain : (plainForm members).WellTyped) :
    ∃ form, (match lookup "enum" members with
      | some values => .ok (.enumeration values false)
      | none => do
          match ← Json.atKey members (.text marker) with
          | some values => return .enumeration values true
          | none => return plainForm members : Except Misuse Form) = .ok form ∧
      form.WellTyped := by
  cases closed : lookup "enum" members with
  | some values => exact ⟨_, rfl, typed.enumerated values closed⟩
  | none =>
      rw [Json.atKey]
      cases opened : lookup marker members with
      | some values => exact ⟨_, rfl, typed.marked values opened⟩
      | none => exact ⟨_, rfl, plain⟩

/-- A well-shaped object has a form, and the form is well-typed. -/
theorem formOf_wellTyped (typed : MembersTyped marker members) :
    ∃ form, formOf (.text marker) members = .ok form ∧ form.WellTyped := by
  unfold formOf
  cases referring : lookup "$ref" members with
  | some target => exact ⟨_, rfl, typed.reference target referring⟩
  | none =>
      rcases Json.field_eq_null_or members "type" with missing | found
      · have plain : (plainForm members).WellTyped := by
          apply plainForm_wellTyped
          rw [missing]
          exact .missing
        simp only [missing]
        exact enumerable_wellTyped typed plain
      · rcases typed.type _ found with ⟨name, named⟩ | ⟨names, listed⟩
        · have plain : (plainForm members).WellTyped := by
            apply plainForm_wellTyped
            rw [named]
            exact .named name
          simp only [named]
          split
          · exact ⟨_, rfl, trivial⟩
          · split
            · exact ⟨_, rfl, trivial⟩
            · split
              · exact enumerable_wellTyped typed plain
              · exact ⟨_, rfl, plain⟩
        · simp only [listed]
          exact ⟨_, rfl, names, rfl⟩

/-! ## Enumerations -/

theorem readValues_succeeds {path : Text} {items : List Json}
    (remarks : ∀ item ∈ items, IsRemark item) (position : Nat) (seen : List Text)
    (values : List Json) :
    (readValues path (.array items) position seen values).Succeeds fun read =>
      ∀ entry ∈ read, IsRemark entry.2 := by
  induction values generalizing position seen with
  | nil => exact nofun
  | cons value values ih =>
      rw [readValues]
      split
      · exact Traced.Ends.note_bind (ih _ _)
      · apply Traced.Ends.bind
          (Processing.checked_succeeds (Json.atPosition_isRemark remarks position))
        intro description remark
        apply Traced.Ends.bind (ih _ _)
        intro others rest
        apply Traced.Ends.pure
        exact List.forall_mem_cons.mpr ⟨remark, rest⟩

theorem readEnumeration_succeeds (typed : MembersTyped marker members) (items : List Json)
    (path : Text) (isOpen : Bool) :
    (readEnumeration members (.array items) path isOpen).Succeeds Enumeration.WellTyped := by
  have listed : ∃ remarks : List Json, (∀ item ∈ remarks, IsRemark item) ∧
      (if (field members "enumDescriptions").truthy then field members "enumDescriptions"
        else .array []) = .array remarks := by
    rcases Json.field_eq_null_or members "enumDescriptions" with missing | found
    · exact ⟨[], nofun, by rw [missing]; rfl⟩
    · by_cases null : field members "enumDescriptions" = .null
      · exact ⟨[], nofun, by rw [null]; rfl⟩
      · obtain ⟨remarks, same, each⟩ := typed.remarks _ found null
        rw [same]
        cases remarks with
        | nil => exact ⟨[], nofun, rfl⟩
        | cons first rest => exact ⟨first :: rest, each, rfl⟩
  obtain ⟨remarks, each, same⟩ := listed
  rw [readEnumeration, same, Json.items, Processing.checked_ok, pure_bind]
  apply Traced.Ends.bind (readValues_succeeds each 0 [] items)
  intro read described
  apply Traced.Ends.pure
  refine ⟨typed.isRemark, ?_⟩
  intro description member
  obtain ⟨entry, inside, rfl⟩ := List.mem_map.mp member
  exact described entry inside

/-! ## Fragments -/

/-- A value that is read as a well-typed fragment, wherever it stands. -/
def Reads (marker : Text) (value : Json) : Prop :=
  ∀ path, (readFragment (.text marker) path value).Succeeds Fragment.WellTyped

theorem descriptionOf_isRemark {value : Json} (shaped : WellShaped marker value) :
    IsRemark (descriptionOf value) := by
  cases shaped with
  | object typed parts properties items additional => exact typed.isRemark

theorem readProperties_succeeds {path : Text} {names : List Text}
    {entries : List (Text × Json)} (shaped : ∀ entry ∈ entries, WellShaped marker entry.2)
    (reads : ∀ entry ∈ entries, Reads marker entry.2) :
    (readProperties (.text marker) path (.array (names.map .text)) entries).Succeeds
      fun properties => ∀ property ∈ properties, property.WellTyped := by
  induction entries with
  | nil => 
      rw [readProperties]
      exact nofun
  | cons entry entries ih =>
      obtain ⟨name, value⟩ := entry
      rw [readProperties, Json.holdsText, Processing.checked_ok]
      simp only [pure_bind]
      apply Traced.Ends.bind (reads _ List.mem_cons_self _)
      intro fragment typed
      apply Traced.Ends.bind
        (ih (List.forall_mem_cons.mp shaped).2 (List.forall_mem_cons.mp reads).2)
      intro others rest
      apply Traced.Ends.pure
      intro property member
      rcases List.mem_cons.mp member with rfl | later
      · refine ⟨descriptionOf_isRemark (shaped _ List.mem_cons_self), ?_⟩
        rintro inner ⟨⟩
        exact typed
      · exact rest property later

/-- The parts of an object that are fragments are well-shaped and can be read. -/
structure PartsRead (marker : Text) (members : List (Text × Json)) : Prop where
  shaped : ∀ entries, lookup "properties" members = some (.object entries) →
    ∀ entry ∈ entries, WellShaped marker entry.2
  properties : ∀ entries, lookup "properties" members = some (.object entries) →
    ∀ entry ∈ entries, Reads marker entry.2
  items : ∀ inner, lookup "items" members = some (.object inner) → Reads marker (.object inner)
  additional : ∀ inner, lookup "additionalProperties" members = some (.object inner) →
    Reads marker (.object inner)

theorem readAt_succeeds {key : Text} (path : Text)
    (reads : ∀ inner, lookup key members = some (.object inner) → Reads marker (.object inner)) :
    (readAt (.text marker) path key members).Succeeds fun read =>
      ∀ fragment, read = some fragment → fragment.WellTyped := by
  rw [readAt_eq]
  cases found : lookup key members with
  | none => exact nofun
  | some value =>
      cases value with
      | object inner =>
          apply Traced.Ends.map
          apply (reads inner found path).mono
          · rintro fragment typed _ ⟨⟩
            exact typed
          · exact fun _ never => never
      | _ => exact nofun

theorem readDeclared_succeeds (typed : MembersTyped marker members)
    (reads : PartsRead marker members) (path : Text) (names : List Text) :
    (readDeclared (.text marker) path (.array (names.map .text)) members).Succeeds
      fun properties => ∀ property ∈ properties, property.WellTyped := by
  rw [readDeclared_eq]
  cases found : lookup "properties" members with
  | none => exact nofun
  | some value =>
      by_cases null : value = .null
      · simp only [null, readMapping]
        exact nofun
      · obtain ⟨entries, rfl, _⟩ := typed.properties value found null
        simp only [readMapping]
        exact readProperties_succeeds (reads.shaped entries found)
          (reads.properties entries found)

theorem readObject_succeeds (typed : MembersTyped marker members)
    (reads : PartsRead marker members) (path : Text) :
    (readObject (.text marker) path members).Succeeds fun shape =>
      (Fragment.object shape).WellTyped := by
  obtain ⟨names, listed⟩ := typed.requiredNames
  rw [readObject, listed]
  apply Traced.Ends.bind (readDeclared_succeeds typed reads path names)
  intro properties each
  apply Traced.Ends.bind (readAt_succeeds _ reads.additional)
  intro described _
  apply Traced.Ends.pure
  exact .object typed.isRemark (fun property member => (each property member).described)
    fun property member => (each property member).fragment

theorem readFragment_succeeds (typed : MembersTyped marker members)
    (reads : PartsRead marker members) : Reads marker (.object members) := by
  intro path
  obtain ⟨form, formed, formTyped⟩ := formOf_wellTyped typed
  rw [readFragment, formed, Processing.checked_ok, pure_bind]
  cases form with
  | reference target =>
      obtain ⟨text, rfl⟩ := formTyped
      exact .reference text
  | typeList types =>
      obtain ⟨names, rfl⟩ := formTyped
      exact .typeList names
  | array =>
      apply Traced.Ends.bind (readAt_succeeds _ reads.items)
      intro items each
      exact .array each
  | object =>
      have same : (do
          let properties ← readDeclared (.text marker) path (requiredNames members) members
          let described ← readAt (.text marker) (path ++ "/additionalProperties")
            "additionalProperties" members
          return .object (shapeOf path members properties described)) =
          Fragment.object <$> readObject (.text marker) path members := by
        simp [readObject]
      exact same ▸ Traced.Ends.map (readObject_succeeds typed reads path)
  | enumeration values isOpen =>
      obtain ⟨items, rfl⟩ := formTyped
      apply Traced.Ends.bind (readEnumeration_succeeds typed items path isOpen)
      intro enumeration values
      exact .enumeration values
  | primitive typeName =>
      obtain ⟨name, rfl⟩ := formTyped
      exact .primitive name

/-- A well-shaped value is always read. -/
theorem WellShaped.reads {value : Json} (shaped : WellShaped marker value) :
    Reads marker value := by
  induction shaped with
  | object typed parts properties items additional _ propertiesRead itemsRead additionalRead =>
      exact readFragment_succeeds typed ⟨properties, propertiesRead, itemsRead, additionalRead⟩

/-! ## Definitions -/

namespace WellShaped

theorem typed (shaped : WellShaped marker (.object members)) : MembersTyped marker members := by
  cases shaped with
  | object typed parts properties items additional => exact typed

theorem partsRead (shaped : WellShaped marker (.object members)) : PartsRead marker members := by
  cases shaped with
  | object typed parts properties items additional =>
      refine ⟨properties, ?_, ?_, ?_⟩
      · intro entries found entry member
        exact (properties entries found entry member).reads
      · exact fun inner found => (items inner found).reads
      · exact fun inner found => (additional inner found).reads

theorem composed (shaped : WellShaped marker (.object members)) {items : List Json}
    (found : lookup "allOf" members = some (.array items)) :
    ∀ item ∈ items, WellShaped marker item := by
  cases shaped with
  | object typed parts properties items additional => exact parts _ found

end WellShaped

/-- A part with a reference that is a text, or with a well-typed object. -/
def Part.WellTyped : Part → Prop
  | .base link => ∃ target, link.target = .text target
  | .extension shape => (Fragment.object shape).WellTyped

theorem readPart_succeeds {member : Json} (shaped : WellShaped marker member) (path : Text) :
    (readPart (.text marker) path member).Succeeds Part.WellTyped := by
  cases member with
  | object members =>
      rw [readPart, Json.holdsText, Processing.checked_ok]
      simp only [pure_bind]
      cases found : lookup "$ref" members with
      | some target =>
          rw [hasKey, found, Option.isSome_some, if_pos rfl]
          obtain ⟨text, rfl⟩ := shaped.typed.reference target found
          exact ⟨text, by rw [field, found, Option.getD_some]⟩
      | none =>
          rw [hasKey, found, if_neg (by decide), Json.members, Processing.checked_ok, pure_bind]
          apply Traced.Ends.bind (readObject_succeeds shaped.typed shaped.partsRead path)
          exact fun shape typed => typed
  | _ => cases shaped

theorem readParts_succeeds {items : List Json} (shaped : ∀ item ∈ items, WellShaped marker item)
    (path : Text) (position : Nat) :
    (readParts (.text marker) path position items).Succeeds fun parts =>
      ∀ part ∈ parts, part.WellTyped := by
  induction items generalizing position with
  | nil => exact nofun
  | cons item items ih =>
      rw [readParts]
      apply Traced.Ends.bind (readPart_succeeds (shaped item List.mem_cons_self) _)
      intro part typed
      apply Traced.Ends.bind (ih (List.forall_mem_cons.mp shaped).2 _)
      intro parts rest
      apply Traced.Ends.pure
      exact List.forall_mem_cons.mpr ⟨typed, rest⟩

/-- A well-shaped composition is read unless it has several inline objects. -/
theorem readComposition_ends (strict : Bool) (shaped : WellShaped marker (.object members))
    {items : List Json} (found : lookup "allOf" members = some (.array items))
    (name path : Text) :
    (readComposition (.text marker) name path members (.array items)).Ends
      Fragment.BodyTyped (Failure.Expected strict) := by
  rw [readComposition, Json.items, Processing.checked_ok, pure_bind]
  apply Traced.Ends.bind (readParts_succeeds (shaped.composed found) path 0).ends
  intro parts typed
  have referring : ∀ fragment,
      (parts.filterMap Part.base?).getLast?.map Fragment.reference = some fragment →
      ∃ place target, fragment = .reference ⟨place, .text target⟩ := by
    intro fragment last
    obtain ⟨link, isLast, rfl⟩ := Option.map_eq_some_iff.mp last
    obtain ⟨part, member, isBase⟩ := List.mem_filterMap.mp (List.mem_of_getLast? isLast)
    cases part with
    | extension shape => cases isBase
    | base same =>
        cases isBase
        obtain ⟨target, written⟩ := typed _ member
        exact ⟨link.place, target, by rw [← written]⟩
  cases inline : parts.filterMap Part.extension? with
  | nil => exact .composition shaped.typed.isRemark referring nofun
  | cons extension others =>
      cases others with
      | cons second others => exact Traced.Ends.fail trivial
      | nil =>
          have among : extension ∈ parts.filterMap Part.extension? := by
            rw [inline]
            exact List.mem_singleton_self extension
          obtain ⟨part, member, isExtension⟩ := List.mem_filterMap.mp among
          have inner : (Fragment.object extension).WellTyped := by
            cases part with
            | base link => cases isExtension
            | extension same =>
                cases isExtension
                exact typed _ member
          refine .composition ?_ referring ?_
          · dsimp only
            split
            · cases inner with
              | object place described types => exact place
            · exact shaped.typed.isRemark
          · rintro fragment ⟨⟩
            exact ⟨extension, rfl, inner⟩

theorem readBody_ends (strict : Bool) (shaped : WellShaped marker (.object members))
    (name path : Text) :
    (readBody (.text marker) name path members).Ends Fragment.BodyTyped
      (Failure.Expected strict) := by
  have typed := shaped.typed
  rw [readBody]
  cases composed : lookup "allOf" members with
  | some value =>
      obtain ⟨items, rfl, _⟩ := typed.composed value composed
      exact readComposition_ends strict shaped composed name path
  | none =>
      cases closed : lookup "enum" members with
      | some values =>
          obtain ⟨items, rfl⟩ := typed.enumerated values closed
          apply Traced.Ends.bind (readEnumeration_succeeds typed items path false).ends
          exact fun enumeration each => .enumeration each
      | none =>
          simp only [Json.atKey, Processing.checked_ok, pure_bind]
          cases opened : lookup marker members with
          | some values =>
              obtain ⟨items, rfl⟩ := typed.marked values opened
              apply Traced.Ends.bind (readEnumeration_succeeds typed items path true).ends
              exact fun enumeration each => .enumeration each
          | none =>
              apply Traced.Ends.bind (readObject_succeeds typed shaped.partsRead path).ends
              exact fun shape each => .object each

theorem readDefinitions_ends (strict : Bool) {entries : List (Text × Json)}
    (shaped : ∀ entry ∈ entries, entry.2.isObject = true → WellShaped marker entry.2) :
    (readDefinitions (.text marker) entries).Ends
      (fun definitions => ∀ definition ∈ definitions, definition.WellTyped)
      (Failure.Expected strict) := by
  induction entries with
  | nil => exact nofun
  | cons entry entries ih =>
      obtain ⟨name, value⟩ := entry
      have rest := ih (List.forall_mem_cons.mp shaped).2
      rw [readDefinitions]
      split
      · exact rest
      · rename_i read
        cases value with
        | object members =>
            rw [Json.members, Processing.checked_ok, pure_bind]
            apply Traced.Ends.bind
              (readBody_ends strict (shaped _ List.mem_cons_self rfl) name _)
            intro body typed
            apply Traced.Ends.bind rest
            intro others each
            apply Traced.Ends.pure
            exact List.forall_mem_cons.mpr ⟨⟨body, rfl, typed⟩, each⟩
        | _ => exact absurd rfl read

/-- A well-shaped document is read as well-typed definitions, unless a composition has
several inline objects. -/
theorem read_ends (strict : Bool) {document : Json} (shaped : DocumentShaped marker document) :
    (read (.text marker) document).Ends
      (fun definitions => ∀ definition ∈ definitions, definition.WellTyped)
      (Failure.Expected strict) := by
  cases shaped with
  | absent missing =>
      rw [read, Json.members, Processing.checked_ok, pure_bind, missing]
      exact List.forall_mem_nil _
  | @present members entries found shaped =>
      have same : (field members "definitions").optionalMembers = .ok entries := by
        rw [field, found, Option.getD_some, Json.optionalMembers]
        cases entries with
        | nil => rfl
        | cons entry entries => rfl
      rw [read, Json.members, Processing.checked_ok, pure_bind, same, Processing.checked_ok,
        pure_bind]
      apply Traced.Ends.bind (readDefinitions_ends strict shaped)
      exact fun definitions typed => Traced.Ends.note_bind typed

end ProtocolBindings.Schema
