import ProtocolBindings.Json.Literal
import ProtocolBindings.Proofs.Json
import ProtocolBindings.Proofs.Text.Whole

/-!
# Whole JSON values

A JSON value is whole if all of its texts are, at any depth and also as keys.  So are its
parts, and so is its display.
-/

namespace ProtocolBindings.Json

/-- A value without halves of surrogate pairs. -/
inductive Whole : Json → Prop where
  | null : Whole .null
  | bool (value : Bool) : Whole (.bool value)
  | integer (value : Int) : Whole (.integer value)
  | number (value : Decimal.Binary64) : Whole (.number value)
  | text {value : Text} (whole : value.Whole) : Whole (.text value)
  | array {items : List Json} (each : ∀ item ∈ items, Whole item) : Whole (.array items)
  | object {members : List (Text × Json)} (keys : ∀ member ∈ members, member.1.Whole)
      (values : ∀ member ∈ members, Whole member.2) : Whole (.object members)

/-! ## Literals -/

theorem whole_enclosed (opening closing : Char) {parts : List Text}
    (each : ∀ part ∈ parts, part.Whole) : (enclosed opening closing parts).Whole := by
  have joined := Text.whole_intercalate (Text.whole_ofString ", ") each
  exact Text.whole_cons.mpr ⟨rfl, Text.whole_append.mpr ⟨joined, Text.whole_ofCharacters [closing]⟩⟩

mutual

/-- The literal of any value is whole, since it escapes halves. -/
theorem whole_literal : (value : Json) → (literal value).Whole
  | .null | .bool _ | .integer _ | .number _ => Text.whole_ofString _
  | .text _ => Text.whole_ofCharacters _
  | .array items => whole_enclosed _ _ (whole_literalItems items)
  | .object members => whole_enclosed _ _ (whole_literalMembers members)

theorem whole_literalItems : (items : List Json) → ∀ part ∈ literalItems items, part.Whole
  | [] => nofun
  | item :: items => List.forall_mem_cons.mpr ⟨whole_literal item, whole_literalItems items⟩

theorem whole_literalMembers : (members : List (Text × Json)) →
    ∀ part ∈ literalMembers members, part.Whole
  | [] => nofun
  | (key, value) :: members => by
      have shown : (Text.quoted key ++ ": " ++ literal value).Whole := by
        simp [Text.quoted, whole_literal value]
      exact List.forall_mem_cons.mpr ⟨shown, whole_literalMembers members⟩

end

theorem Whole.display {value : Json} (whole : value.Whole) : value.display.Whole := by
  cases whole with
  | text whole => exact whole
  | null | bool _ | integer _ | number _ | array _ | object _ _ => exact whole_literal _

/-! ## Parts -/

/-- Members of a whole object. -/
structure MembersWhole (members : List (Text × Json)) : Prop where
  keys : ∀ member ∈ members, member.1.Whole
  values : ∀ member ∈ members, member.2.Whole

theorem whole_object_iff {members : List (Text × Json)} :
    (object members).Whole ↔ MembersWhole members := by
  constructor
  · rintro (_ | _ | _ | _ | _ | _ | ⟨keys, values⟩)
    exact ⟨keys, values⟩
  · rintro ⟨keys, values⟩
    exact .object keys values

theorem whole_text_iff {value : Text} : (text value).Whole ↔ value.Whole :=
  ⟨fun | .text whole => whole, .text⟩

namespace MembersWhole

variable {members : List (Text × Json)} {key : Text} {value : Json}

theorem lookup (whole : MembersWhole members) (found : lookup key members = some value) :
    value.Whole :=
  whole.values _ (mem_of_lookup found)

theorem field (whole : MembersWhole members) (key : Text) : (field members key).Whole := by
  rcases field_eq_null_or members key with missing | found
  · rw [missing]
    exact .null
  · exact whole.lookup found

theorem atKey (whole : MembersWhole members) {marker : Json} {found : Option Json}
    (sought : atKey members marker = .ok found) : ∀ value, found = some value → value.Whole := by
  unfold Json.atKey at sought
  split at sought
  · cases sought
    exact fun value held => whole.lookup held
  · split at sought
    · cases sought
      exact nofun
    · cases sought

end MembersWhole

namespace Whole

variable {value : Json}

theorem members (whole : value.Whole) {members : List (Text × Json)}
    (taken : value.members = .ok members) : MembersWhole members := by
  cases value with
  | object own =>
      cases taken
      exact whole_object_iff.mp whole
  | null | bool _ | integer _ | number _ | text _ | array _ => cases taken

theorem optionalMembers (whole : value.Whole) {members : List (Text × Json)}
    (taken : value.optionalMembers = .ok members) : MembersWhole members := by
  unfold Json.optionalMembers at taken
  split at taken
  · exact whole.members taken
  · cases taken
    exact ⟨nofun, nofun⟩

theorem items (whole : value.Whole) {items : List Json} (taken : value.items = .ok items) :
    ∀ item ∈ items, item.Whole := by
  cases whole with
  | null | bool _ | integer _ | number _ => cases taken
  | text whole =>
      cases taken
      refine List.forall_mem_map.mpr fun symbol member => .text ?_
      exact List.forall_mem_singleton.mpr (whole symbol member)
  | array each =>
      cases taken
      exact each
  | object keys values =>
      cases taken
      exact List.forall_mem_map.mpr fun member inside => .text (keys member inside)

theorem atPosition (whole : value.Whole) {position : Nat} {found : Json}
    (taken : value.atPosition position = .ok found) : found.Whole := by
  cases whole with
  | null | bool _ | integer _ | number _ => cases taken
  | @text value whole =>
      cases taken
      cases held : value[position]? with
      | none => exact .null
      | some symbol =>
          exact .text (List.forall_mem_singleton.mpr (whole symbol (List.mem_of_getElem? held)))
  | @array items each =>
      cases taken
      cases held : items[position]? with
      | none => exact .null
      | some item => exact each item (List.mem_of_getElem? held)
  | object keys values =>
      rw [Json.atPosition] at taken
      split at taken
      · cases taken
      · cases taken
        exact .null

end Whole

end ProtocolBindings.Json
