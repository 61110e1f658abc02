import ProtocolBindings.Proofs.Json.Whole
import ProtocolBindings.Proofs.Traced
import ProtocolBindings.Schema.Reader

/-!
# Whole schemas

The texts of a schema that reach a model are names, references, values and descriptions.
They are those of the document, or display its values, so that a whole document is read as
whole definitions, whatever marker they are read with.
-/

namespace ProtocolBindings.Schema

open Json (MembersWhole field lookup)
open Traced (Ends Yields)

/-- An enumeration whose values and descriptions are whole. -/
structure Enumeration.Whole (enumeration : Enumeration) : Prop where
  described : enumeration.place.description.Whole
  values : ∀ value ∈ enumeration.values, value.Whole
  descriptions : ∀ description ∈ enumeration.descriptions, description.Whole

/-- A fragment whose names, references, values and descriptions are whole.  What an object
admits besides its properties has no part in a model. -/
inductive Fragment.Whole : Fragment → Prop where
  | primitive {place : Place} (described : place.description.Whole) (typeName : Json) :
      Whole (.primitive place typeName)
  | enumeration {values : Enumeration} (whole : values.Whole) : Whole (.enumeration values)
  | typeList {place : Place} (described : place.description.Whole) (types : List Json) :
      Whole (.typeList place types)
  | reference {link : Link} (described : link.place.description.Whole)
      (target : link.target.Whole) : Whole (.reference link)
  | array {place : Place} {items : Option Fragment} (described : place.description.Whole)
      (inner : ∀ fragment, items = some fragment → Whole fragment) : Whole (.array place items)
  | object {shape : ObjectShape Fragment} (described : shape.place.description.Whole)
      (names : ∀ property ∈ shape.properties, property.name.Whole)
      (descriptions : ∀ property ∈ shape.properties, property.place.description.Whole)
      (types : ∀ property ∈ shape.properties, ∀ fragment,
        property.fragment = some fragment → Whole fragment) :
      Whole (.object shape)
  | composition {place : Place} {base extension : Option Fragment}
      (described : place.description.Whole)
      (referring : ∀ fragment, base = some fragment → Whole fragment)
      (inline : ∀ fragment, extension = some fragment → Whole fragment) :
      Whole (.composition place base extension)

theorem Fragment.Whole.described {fragment : Fragment} (whole : fragment.Whole) :
    fragment.place.description.Whole := by
  cases whole with
  | enumeration values => exact values.described
  | primitive described _ | typeList described _ | reference described _ | array described _
  | object described _ _ _ | composition described _ _ => exact described

/-- A property with a whole name, description and type. -/
structure Property.Whole (property : Property Fragment) : Prop where
  name : property.name.Whole
  described : property.place.description.Whole
  fragment : ∀ inner, property.fragment = some inner → inner.Whole

theorem whole_object_iff {shape : ObjectShape Fragment} :
    (Fragment.object shape).Whole ↔
      shape.place.description.Whole ∧ ∀ property ∈ shape.properties, property.Whole := by
  constructor
  · intro whole
    cases whole with
    | object described names descriptions types =>
        exact ⟨described, fun property member =>
          ⟨names property member, descriptions property member, types property member⟩⟩
  · rintro ⟨described, each⟩
    exact .object described (fun property member => (each property member).name)
      (fun property member => (each property member).described)
      fun property member => (each property member).fragment

/-- A definition with a whole name and body. -/
structure Definition.Whole (definition : Definition) : Prop where
  name : definition.name.Whole
  body : ∀ fragment, definition.body = some fragment → fragment.Whole

/-! ## Fragments -/

section

variable {marker : Json} {members : List (Text × Json)} {value : Json}

theorem readValues_yields {descriptions : Json} (described : descriptions.Whole) (path : Text)
    (position : Nat) (seen : List Text) {values : List Json}
    (whole : ∀ value ∈ values, value.Whole) :
    (readValues path descriptions position seen values).Yields fun read =>
      ∀ entry ∈ read, entry.1.Whole ∧ entry.2.Whole := by
  induction values generalizing position seen with
  | nil => exact nofun
  | cons value values ih =>
      obtain ⟨own, later⟩ := List.forall_mem_cons.mp whole
      rw [readValues]
      split
      · exact Ends.note_bind (ih _ _ later)
      · apply Ends.bind (Processing.checked_yields fun description => described.atPosition)
        intro description remark
        apply Ends.bind (ih _ _ later)
        intro others rest
        apply Ends.pure
        exact List.forall_mem_cons.mpr ⟨⟨own.display, remark⟩, rest⟩

theorem readEnumeration_yields (whole : MembersWhole members) (listed : value.Whole)
    (path : Text) (isOpen : Bool) :
    (readEnumeration members value path isOpen).Yields Enumeration.Whole := by
  have described : Json.Whole (if (field members "enumDescriptions").truthy
      then field members "enumDescriptions" else .array []) := by
    split
    · exact whole.field "enumDescriptions"
    · exact .array nofun
  rw [readEnumeration]
  apply Ends.bind (Processing.checked_yields fun items => listed.items)
  intro items each
  apply Ends.bind (readValues_yields described path 0 [] each)
  intro read entries
  apply Ends.pure
  refine ⟨whole.field "description", List.forall_mem_map.mpr fun entry member => ?_,
    List.forall_mem_map.mpr fun entry member => ?_⟩
  · exact (entries entry member).1
  · exact (entries entry member).2

/-- A form whose reference and values are whole. -/
def Form.Whole : Form → Prop
  | .reference target => target.Whole
  | .enumeration values _ => values.Whole
  | .typeList _ | .primitive _ | .array | .object => True

theorem plainForm_whole (members : List (Text × Json)) : (plainForm members).Whole := by
  unfold plainForm
  dsimp only
  split
  · trivial
  · trivial

theorem formOf_whole (whole : MembersWhole members) {form : Form}
    (formed : formOf marker members = .ok form) : form.Whole := by
  unfold formOf at formed
  split at formed
  · rename_i target found
    cases formed
    exact whole.lookup found
  · split at formed
    · cases formed
      trivial
    · split at formed
      · cases formed
        trivial
      · split at formed
        · cases formed
          trivial
        · split at formed
          · split at formed
            · rename_i values found
              cases formed
              exact whole.lookup found
            · obtain ⟨found, sought, formed⟩ := bind_eq_ok_iff.mp formed
              split at formed
              · cases formed
                exact whole.atKey sought _ rfl
              · cases formed
                exact plainForm_whole members
          · cases formed
            exact plainForm_whole members

theorem descriptionOf_whole (whole : value.Whole) : (descriptionOf value).Whole := by
  cases whole with
  | object keys values => exact MembersWhole.field ⟨keys, values⟩ "description"
  | null | bool _ | integer _ | number _ | text _ | array _ => exact .null

/-- What a value is read as is whole, as a fragment and as a mapping of properties. -/
structure ReadWhole (marker value : Json) : Prop where
  fragment : ∀ path, (readFragment marker path value).Yields Fragment.Whole
  mapping : ∀ path required, (readMapping marker path required value).Yields fun properties =>
    ∀ property ∈ properties, property.Whole

section

variable (reads : ∀ member ∈ members, ReadWhole marker member.2)

include reads

theorem readProperties_yields (whole : MembersWhole members) (path : Text) (required : Json) :
    (readProperties marker path required members).Yields fun properties =>
      ∀ property ∈ properties, property.Whole := by
  obtain ⟨keys, values⟩ := whole
  induction members with
  | nil =>
      rw [readProperties]
      exact nofun
  | cons entry entries ih =>
      obtain ⟨name, value⟩ := entry
      obtain ⟨key, laterKeys⟩ := List.forall_mem_cons.mp keys
      obtain ⟨own, laterValues⟩ := List.forall_mem_cons.mp values
      obtain ⟨first, later⟩ := List.forall_mem_cons.mp reads
      rw [readProperties]
      apply Ends.bind (first.fragment _)
      intro fragment typed
      apply Ends.bind (Yields.any _)
      intro isRequired _
      apply Ends.bind (ih later laterKeys laterValues)
      intro others rest
      apply Ends.pure
      refine List.forall_mem_cons.mpr ⟨⟨key, descriptionOf_whole own, ?_⟩, rest⟩
      rintro inner ⟨⟩
      exact typed

theorem readAt_yields (path key : Text) :
    (readAt marker path key members).Yields fun read =>
      ∀ fragment, read = some fragment → fragment.Whole := by
  rw [readAt_eq]
  split
  · next inner found =>
      apply Ends.map
      apply ((reads _ (Json.mem_of_lookup found)).fragment path).mono
      rintro fragment typed _ ⟨⟩
      exact typed
  · exact nofun

theorem readDeclared_yields (path : Text) (required : Json) :
    (readDeclared marker path required members).Yields fun properties =>
      ∀ property ∈ properties, property.Whole := by
  rw [readDeclared_eq]
  split
  · next mapping found => exact (reads _ (Json.mem_of_lookup found)).mapping path required
  · exact nofun

theorem readObject_yields (whole : MembersWhole members) (path : Text) :
    (readObject marker path members).Yields fun shape => (Fragment.object shape).Whole := by
  rw [readObject]
  apply Ends.bind (readDeclared_yields reads _ _)
  intro properties each
  apply Ends.bind (Yields.any _)
  intro described _
  apply Ends.pure
  exact whole_object_iff.mpr ⟨whole.field "description", each⟩

end

/-- A whole value is read as a whole fragment. -/
theorem readWhole (marker : Json) (whole : value.Whole) : ReadWhole marker value := by
  -- Both readings in one induction, since a mapping holds fragments and an object a mapping.
  induction whole with
  | null | bool _ | integer _ | number _ | text _ | array _ _ =>
      constructor
      · intro path
        rw [readFragment]
        · exact Yields.fail _
        · exact nofun
      · intro path required
        rw [readMapping]
        · split
          · exact Yields.fail _
          · exact nofun
        · exact nofun
  | @object members keys values reads =>
      have whole : MembersWhole members := ⟨keys, values⟩
      constructor
      · intro path
        rw [readFragment]
        apply Ends.bind (Processing.checked_yields fun form => formOf_whole whole)
        intro form formed
        cases form with
        | reference target => exact .reference (whole.field "description") formed
        | typeList types => exact .typeList (whole.field "description") types
        | array =>
            apply Ends.bind (readAt_yields reads _ _)
            intro items inner
            exact .array (whole.field "description") inner
        | object =>
            apply Ends.bind (readDeclared_yields reads _ _)
            intro properties each
            apply Ends.bind (Yields.any _)
            intro described _
            exact whole_object_iff.mpr ⟨whole.field "description", each⟩
        | enumeration values isOpen =>
            apply Ends.bind (readEnumeration_yields whole formed _ _)
            intro enumeration listed
            exact .enumeration listed
        | primitive typeName => exact .primitive (whole.field "description") typeName
      · intro path required
        rw [readMapping]
        exact readProperties_yields reads whole path required

end

/-! ## Definitions -/

/-- A part of a composition that is whole. -/
def Part.Whole : Part → Prop
  | .base link => (Fragment.reference link).Whole
  | .extension shape => (Fragment.object shape).Whole

section

variable {marker value : Json} {members : List (Text × Json)}

theorem readObject_whole (whole : MembersWhole members) (path : Text) :
    (readObject marker path members).Yields fun shape => (Fragment.object shape).Whole :=
  readObject_yields (fun member inside => readWhole marker (whole.values member inside)) whole path

theorem readPart_yields (whole : value.Whole) (path : Text) :
    (readPart marker path value).Yields Part.Whole := by
  unfold readPart
  apply Ends.bind (Yields.any _)
  intro refers _
  split
  · split
    · have members := Json.whole_object_iff.mp whole
      exact Fragment.Whole.reference .null (members.field "$ref")
    · exact Yields.fail _
  · apply Ends.bind (Processing.checked_yields fun members => whole.members)
    intro members own
    apply Ends.bind (readObject_whole own path)
    intro shape inline
    exact inline

theorem readParts_yields (path : Text) (position : Nat) {listed : List Json}
    (whole : ∀ member ∈ listed, member.Whole) :
    (readParts marker path position listed).Yields fun parts => ∀ part ∈ parts, part.Whole := by
  induction listed generalizing position with
  | nil => exact nofun
  | cons member listed ih =>
      obtain ⟨own, later⟩ := List.forall_mem_cons.mp whole
      rw [readParts]
      apply Ends.bind (readPart_yields own _)
      intro part first
      apply Ends.bind (ih _ later)
      intro parts rest
      exact List.forall_mem_cons.mpr ⟨first, rest⟩

theorem whole_base {parts : List Part} (whole : ∀ part ∈ parts, part.Whole) :
    ∀ fragment, (parts.filterMap Part.base?).getLast?.map Fragment.reference = some fragment →
      fragment.Whole := by
  intro fragment held
  obtain ⟨link, last, rfl⟩ := Option.map_eq_some_iff.mp held
  obtain ⟨part, member, own⟩ := List.mem_filterMap.mp (List.mem_of_getLast? last)
  have known := whole part member
  cases part with
  | base other =>
      cases own
      exact known
  | extension shape => cases own

theorem whole_extension {parts : List Part} (whole : ∀ part ∈ parts, part.Whole)
    {shape : ObjectShape Fragment} (among : shape ∈ parts.filterMap Part.extension?) :
    (Fragment.object shape).Whole := by
  obtain ⟨part, member, own⟩ := List.mem_filterMap.mp among
  have known := whole part member
  cases part with
  | base link => cases own
  | extension other =>
      cases own
      exact known

theorem readComposition_yields (whole : MembersWhole members) (composed : value.Whole)
    (name path : Text) :
    (readComposition marker name path members value).Yields Fragment.Whole := by
  rw [readComposition]
  apply Ends.bind (Processing.checked_yields fun listed => composed.items)
  intro listed each
  apply Ends.bind (readParts_yields path 0 each)
  intro parts known
  have referring := whole_base known
  have described := whole.field "description"
  dsimp only
  split
  · exact .composition described referring nofun
  · rename_i extension only
    have inline := whole_extension known (only ▸ List.mem_singleton_self extension)
    refine .composition ?_ referring fun fragment same => Option.some.inj same ▸ inline
    show Json.Whole (if _ then _ else _)
    split
    · exact inline.described
    · exact described
  · exact Yields.fail _

theorem readBody_yields (whole : MembersWhole members) (name path : Text) :
    (readBody marker name path members).Yields Fragment.Whole := by
  rw [readBody]
  split
  · rename_i composed found
    exact readComposition_yields whole (whole.lookup found) _ _
  · split
    · rename_i values found
      apply Ends.bind (readEnumeration_yields whole (whole.lookup found) _ _)
      exact fun enumeration listed => .enumeration listed
    · apply Ends.bind (Processing.checked_yields fun marked => whole.atKey)
      intro marked held
      split
      · apply Ends.bind (readEnumeration_yields whole (held _ rfl) _ _)
        exact fun enumeration listed => .enumeration listed
      · apply Ends.bind (readObject_whole whole _)
        exact fun shape inline => inline

theorem readDefinitions_yields {entries : List (Text × Json)} (whole : MembersWhole entries) :
    (readDefinitions marker entries).Yields fun definitions =>
      ∀ definition ∈ definitions, definition.Whole := by
  obtain ⟨keys, values⟩ := whole
  induction entries with
  | nil => exact nofun
  | cons entry entries ih =>
      obtain ⟨name, value⟩ := entry
      obtain ⟨key, laterKeys⟩ := List.forall_mem_cons.mp keys
      obtain ⟨own, laterValues⟩ := List.forall_mem_cons.mp values
      rw [readDefinitions]
      split
      · exact ih laterKeys laterValues
      · apply Ends.bind (Processing.checked_yields fun members => own.members)
        intro members inner
        apply Ends.bind (readBody_yields inner _ _)
        intro body formed
        apply Ends.bind (ih laterKeys laterValues)
        intro others rest
        apply Ends.pure
        refine List.forall_mem_cons.mpr ⟨⟨key, ?_⟩, rest⟩
        rintro fragment ⟨⟩
        exact formed

/-- A whole document is read as whole definitions. -/
theorem read_yields (marker : Json) {document : Json} (whole : document.Whole) :
    (read marker document).Yields fun definitions =>
      ∀ definition ∈ definitions, definition.Whole := by
  rw [read]
  apply Ends.bind (Processing.checked_yields fun members => whole.members)
  intro members own
  apply Ends.bind (Processing.checked_yields fun entries =>
    (own.field "definitions").optionalMembers)
  intro entries listed
  apply Ends.bind (readDefinitions_yields listed)
  intro definitions each
  exact Ends.note_bind each

end

end ProtocolBindings.Schema
