import ProtocolBindings.Model.Query
import ProtocolBindings.Proofs.FirstOccurrence
import ProtocolBindings.Proofs.Traced
import ProtocolBindings.Resolve.Basic

/-!
# Values of enumerations

Reading keeps the first of several values with one text, and drops the others with a notice.
As values and descriptions are kept side by side, each member of the enumeration that is
built of them has the description that stands where its value occurs first.
-/

namespace ProtocolBindings

namespace Schema

open Json (lookup field)

/-- The values that an object lists: those of a closed enumeration or, for want of one, those
under the marker of open ones. -/
inductive Lists (marker : Json) (members : List (Text × Json)) :
    (isOpen : Bool) → List Json → Prop where
  | closed {items : List Json} (found : lookup "enum" members = some (.array items)) :
      Lists marker members false items
  | opened {items : List Json} (missing : lookup "enum" members = none)
      (found : Json.atKey members marker = .ok (some (.array items))) :
      Lists marker members true items

/-- The descriptions of the values that an object lists, none if they are missing. -/
inductive Describes (members : List (Text × Json)) : List Json → Prop where
  | missing (absent : field members "enumDescriptions" = .null) : Describes members []
  | listed {remarks : List Json} (found : field members "enumDescriptions" = .array remarks) :
      Describes members remarks

/-- The description at the position where a text occurs first. -/
def descriptionAt (remarks : List Json) (texts : List Text) (text : Text) : Json :=
  remarks[texts.idxOf text]?.getD .null

/-! ## The loop over the values -/

theorem idxOf_cons_of_unseen {seen texts : List Text} {text other : Text}
    (known : other ∈ seen) (member : text ∈ unseen seen texts) :
    (other :: texts).idxOf text = texts.idxOf text + 1 := by
  have fresh := (mem_unseen_iff.mp member).2
  apply List.idxOf_cons_ne
  rintro rfl
  exact fresh known

/-- The values are read as their texts, each at its first occurrence and with the description
found there. -/
theorem outcome_readValues (path : Text) (remarks : List Json) (position : Nat)
    (seen : List Text) (values : List Json) :
    (readValues path (.array remarks) position seen values).outcome =
      .ok ((unseen seen (values.map Json.display)).map fun text =>
        (text, remarks[position + (values.map Json.display).idxOf text]?.getD .null)) := by
  induction values generalizing position seen with
  | nil => rfl
  | cons value values ih =>
      rw [readValues, List.map_cons]
      by_cases known : value.display ∈ seen
      · rw [if_pos known, Traced.bind_of_ok _ (Traced.outcome_note _), ih, unseen_cons_of_mem known]
        -- What is passed over moves the position and the indices of what follows alike.
        congr 1
        apply List.map_congr_left
        intro text member
        rw [idxOf_cons_of_unseen known member, Nat.add_right_comm, Nat.add_assoc]
      · have later := ih (position + 1) (value.display :: seen)
        rw [if_neg known, Json.atPosition, Processing.checked_ok, pure_bind,
          Traced.bind_of_ok _ later, unseen_cons_of_not_mem known, List.map_cons,
          List.idxOf_cons_self]
        simp only [Traced.outcome_pure]
        congr 2
        apply List.map_congr_left
        intro text member
        rw [idxOf_cons_of_unseen List.mem_cons_self member, Nat.add_right_comm, Nat.add_assoc]

/-- Each value either stays or is dropped with a notice of its own. -/
theorem trail_readValues (path : Text) (remarks : List Json) (position : Nat)
    (seen : List Text) (values : List Json) :
    (∀ notice ∈ (readValues path (.array remarks) position seen values).trail,
      ∃ value, notice = .duplicateValue value path) ∧
    (readValues path (.array remarks) position seen values).trail.length +
      (unseen seen (values.map Json.display)).length = values.length := by
  induction values generalizing position seen with
  | nil => exact ⟨nofun, rfl⟩
  | cons value values ih =>
      rw [readValues, List.map_cons]
      by_cases known : value.display ∈ seen
      · obtain ⟨dropped, counted⟩ := ih (position + 1) seen
        rw [if_pos known, Traced.bind_of_ok _ (Traced.outcome_note _), unseen_cons_of_mem known]
        constructor
        · intro notice member
          rcases List.mem_cons.mp member with rfl | later
          · exact ⟨value.display, rfl⟩
          · exact dropped notice later
        · simp only [Traced.trail_note, List.length_append, List.length_cons, List.length_nil]
          omega
      · obtain ⟨dropped, counted⟩ := ih (position + 1) (value.display :: seen)
        have later := outcome_readValues path remarks (position + 1) (value.display :: seen) values
        rw [if_neg known, Json.atPosition, Processing.checked_ok, pure_bind,
          Traced.bind_of_ok _ later, unseen_cons_of_not_mem known]
        simp only [Traced.trail_pure, List.append_nil, List.length_cons]
        exact ⟨dropped, by omega⟩

/-! ## Enumerations -/

/-- An enumeration that is read of values with descriptions. -/
structure ReadsValues (isOpen : Bool) (items remarks : List Json) (values : Enumeration) :
    Prop where
  kind : values.isOpen = isOpen
  texts : values.values = (items.map Json.display).eraseDups
  descriptions : values.descriptions =
    values.values.map (descriptionAt remarks (items.map Json.display))

/-- A computation drops the repeated values of a list, with one notice for each. -/
structure DropsRepeated {α : Type} (items : List Json) (path : Text) (run : Processing α) :
    Prop where
  kinds : ∀ notice ∈ run.trail, ∃ value, notice = .duplicateValue value path
  count : run.trail.length + (items.map Json.display).eraseDups.length = items.length

variable {marker : Json} {members : List (Text × Json)} {isOpen : Bool}
variable {items remarks : List Json}

theorem Describes.remarks_eq (describes : Describes members remarks) :
    (if (field members "enumDescriptions").truthy then field members "enumDescriptions"
      else .array []) = .array remarks := by
  cases describes with
  | missing absent =>
      rw [absent]
      rfl
  | listed found =>
      rw [found]
      cases remarks <;> rfl

theorem readEnumeration_spec (describes : Describes members remarks) (items : List Json)
    (path : Text) (isOpen : Bool) :
    (∃ values, (readEnumeration members (.array items) path isOpen).outcome = .ok values ∧
      ReadsValues isOpen items remarks values) ∧
    DropsRepeated items path (readEnumeration members (.array items) path isOpen) := by
  have read := outcome_readValues path remarks 0 [] items
  obtain ⟨dropped, counted⟩ := trail_readValues path remarks 0 [] items
  rw [unseen_nil_left] at read counted
  rw [readEnumeration, describes.remarks_eq, Json.items, Processing.checked_ok, pure_bind,
    Traced.bind_of_ok _ read]
  simp only [Nat.zero_add, List.map_map]
  refine ⟨⟨_, rfl, rfl, ?_, ?_⟩, ?_, ?_⟩
  · exact List.map_id _
  · simp only [Function.comp_def, List.map_map]
    rfl
  · simpa using dropped
  · simpa using counted

/-- A definition that lists values, and is no composition, has an enumeration as its body. -/
theorem Lists.readBody_eq (lists : Lists marker members isOpen items)
    (plain : lookup "allOf" members = none) (name path : Text) :
    readBody marker name path members =
      Fragment.enumeration <$> readEnumeration members (.array items) path isOpen := by
  rw [readBody, plain]
  cases lists with
  | closed found =>
      rw [found]
      exact bind_pure_comp _ _
  | opened missing found =>
      rw [missing, found]
      exact bind_pure_comp _ _

/-- A fragment that lists values is an enumeration if it is untyped or a text. -/
theorem Lists.readFragment_eq (lists : Lists marker members isOpen items)
    (direct : lookup "$ref" members = none)
    (text : field members "type" = .null ∨ field members "type" = .text "string")
    (path : Text) :
    readFragment marker path (.object members) =
      Fragment.enumeration <$> readEnumeration members (.array items) path isOpen := by
  have formed : formOf marker members = .ok (.enumeration (.array items) isOpen) := by
    rw [formOf, direct]
    cases lists with
    | closed found =>
        rcases text with type | type
        all_goals
          rw [type, found]
          rfl
    | opened missing found =>
        rcases text with type | type
        all_goals
          rw [type, missing, found]
          rfl
  rw [readFragment, formed]
  exact bind_pure_comp _ _

end Schema

namespace Resolve

open Model (Entity EnumMember EnumType)
open Schema (Definition Describes Enumeration Fragment Lists Place ReadsValues DropsRepeated
  descriptionAt readBody readEnumeration readFragment)
open Json (lookup field)
open Reference (Follow)

/-- An enumeration type has one member for each text of the values, in the order of the first
occurrences, with the description that stands at that occurrence. -/
structure ListsValues (items remarks : List Json) (content : EnumType) : Prop where
  distinct : content.values.Nodup
  values : content.values = (items.map Json.display).eraseDups
  descriptions : ∀ member ∈ content.members,
    member.description = descriptionAt remarks (items.map Json.display) member.value

/-- A computation builds one enumeration type of a list of values, and leaves a notice for each
value that is no member of its own. -/
structure BuildsEnumeration (run : Processing (List Entity)) (name path : Text)
    (isOpen synthesized : Bool) (items remarks : List Json) : Prop where
  built : ∃ content, run.outcome = .ok [.enumType content] ∧ content.name = name ∧
    content.isOpen = isOpen ∧ content.synthesized = synthesized ∧
    ListsValues items remarks content ∧ run.trail.length + content.members.length = items.length
  notices : ∀ notice ∈ run.trail, ∃ value, notice = .duplicateValue value path

/-- The entities of a definition, from its members. -/
def definedEntities (config : Config) (follow : Follow) (definitions : List Definition)
    (marker : Json) (name path : Text) (place : Place) (members : List (Text × Json)) :
    Processing (List Entity) := do
  let body ← readBody marker name path members
  let added ← contribution config follow definitions ⟨name, place, some body⟩
  return added.entities

/-- The entities that are synthesized for an object of the document. -/
def inlineEntities (follow : Follow) (position : Position) (marker : Json) (path : Text)
    (members : List (Text × Json)) : Processing (List Entity) := do
  let fragment ← readFragment marker path (.object members)
  let inference ← infer follow position fragment
  return inference.entities

variable {marker : Json} {members : List (Text × Json)} {isOpen : Bool}
variable {items remarks : List Json}

theorem members_enumTypeOf (name : Text) (values : Enumeration) (synthesized : Bool)
    {describe : Text → Json} (described : values.descriptions = values.values.map describe) :
    (enumTypeOf name values synthesized).members = values.values.map fun value =>
      { value := value
        label := (Naming.label value).1
        description := describe value
        explicitName := (Naming.label value).2 } := by
  rw [enumTypeOf, described, List.zipWith_map_right, List.zipWith_self]

theorem listsValues_enumTypeOf {values : Enumeration}
    (reads : ReadsValues isOpen items remarks values) (name : Text) (synthesized : Bool) :
    ListsValues items remarks (enumTypeOf name values synthesized) := by
  have listed : (enumTypeOf name values synthesized).values =
      (items.map Json.display).eraseDups := by
    rw [EnumType.values, members_enumTypeOf name values synthesized reads.descriptions,
      List.map_map, ← reads.texts]
    exact List.map_id _
  refine ⟨?_, listed, ?_⟩
  · rw [listed]
    exact nodup_eraseDups _
  · intro member found
    rw [members_enumTypeOf name values synthesized reads.descriptions] at found
    obtain ⟨value, inside, rfl⟩ := List.mem_map.mp found
    rfl

theorem buildsEnumeration_of_read {run : Processing (List Entity)} {name path : Text}
    {synthesized : Bool} (describes : Describes members remarks)
    (reads : run = (fun values => [.enumType (enumTypeOf name values synthesized)]) <$>
      readEnumeration members (.array items) path isOpen) :
    BuildsEnumeration run name path isOpen synthesized items remarks := by
  obtain ⟨⟨values, read, spec⟩, dropped⟩ :=
    Schema.readEnumeration_spec describes items path isOpen
  have ends : run = ⟨(readEnumeration members (.array items) path isOpen).trail,
      .ok [.enumType (enumTypeOf name values synthesized)]⟩ := by
    rw [reads, ← bind_pure_comp, Traced.bind_of_ok _ read]
    simp
  have lists := listsValues_enumTypeOf spec name synthesized
  rw [ends]
  refine ⟨⟨_, rfl, rfl, spec.kind, rfl, lists, ?_⟩, dropped.kinds⟩
  rw [← List.length_map EnumMember.value, ← EnumType.values, lists.values]
  exact dropped.count

/-- Wherever an object lists values, at a definition or inside a fragment, one enumeration is
built of them: its members are the texts of the values in the order of their first
occurrences, each with the description that stands at that occurrence, and every value besides
is dropped with a notice. -/
theorem buildsEnumeration (lists : Lists marker members isOpen items)
    (describes : Describes members remarks) :
    (lookup "allOf" members = none →
      ∀ config follow definitions name path place,
        BuildsEnumeration (definedEntities config follow definitions marker name path place members)
          name path isOpen false items remarks) ∧
    (lookup "$ref" members = none →
      (field members "type" = .null ∨ field members "type" = .text "string") →
      ∀ follow position path,
        BuildsEnumeration (inlineEntities follow position marker path members)
          position.entityName path isOpen true items remarks) := by
  constructor
  · intro plain config follow definitions name path place
    apply buildsEnumeration_of_read describes
    rw [definedEntities, lists.readBody_eq plain]
    simp only [map_eq_pure_bind, bind_assoc, pure_bind, contribution]
  · intro direct text follow position path
    apply buildsEnumeration_of_read describes
    rw [inlineEntities, lists.readFragment_eq direct text]
    simp only [map_eq_pure_bind, bind_assoc, pure_bind, infer]
    rfl

/-- Of five values the first, the second and the last become members. -/
theorem buildsEnumeration_levels :
    let items : List Json := [.text "low", .integer 1, .text "low", .text "1", .null]
    let remarks : List Json := [.text "quiet", .null, .text "dropped"]
    let members : List (Text × Json) :=
      [("type", .text "string"), ("_enum", .array items), ("enumDescriptions", .array remarks)]
    BuildsEnumeration
      (definedEntities {} (Reference.follow (fun _ => false) false) [] (.text "_enum") "Level"
        "#/definitions/Level" ⟨"#/definitions/Level", .null⟩ members)
      "Level" "#/definitions/Level" true false items remarks ∧
    BuildsEnumeration
      (inlineEntities (Reference.follow (fun _ => false) false)
        { anchor := "Logger", property := "level" } (.text "_enum") "#/level" members)
      "LoggerLevel" "#/level" true true items remarks := by
  intro items remarks members
  have lists : Lists (.text "_enum") members true items := .opened rfl rfl
  have describes : Describes members remarks := .listed rfl
  obtain ⟨defined, inside⟩ := buildsEnumeration lists describes
  exact ⟨defined rfl _ _ _ _ _ _, inside rfl (.inr rfl) _ _ _⟩

end Resolve

end ProtocolBindings
