import Mathlib.Data.List.Forall2
import ProtocolBindings.Proofs.Failure
import ProtocolBindings.Proofs.Traced
import ProtocolBindings.Schema.Reader

/-!
# Parts of objects and compositions

The properties of an object are what the entries of its mapping are read as, one for one and
in order, and the extension of a composition is what its inline object is read as, if it has
one.
-/

namespace ProtocolBindings.Schema

open Json (lookup field hasKey)

variable {marker : Json} {path : Text}

/-! ## Properties -/

/-- A property that an entry of a mapping is read as. -/
inductive ReadsProperty (marker : Json) (path : Text) (required : Json) :
    Text × Json → Property Fragment → Prop where
  | entry {name : Text} {value : Json} {fragment : Fragment} {isRequired : Bool}
      (read : (readFragment marker (path ++ "/properties/" ++ name) value).outcome = .ok fragment)
      (held : required.holdsText name = .ok isRequired) :
      ReadsProperty marker path required (name, value) {
        place := ⟨path ++ "/properties/" ++ name, descriptionOf value⟩
        name := name
        required := isRequired
        fragment := some fragment }

theorem readProperties_ok_iff {required : Json} {entries : List (Text × Json)}
    {properties : List (Property Fragment)} :
    (readProperties marker path required entries).outcome = .ok properties ↔
      List.Forall₂ (ReadsProperty marker path required) entries properties := by
  induction entries generalizing properties with
  | nil =>
      rw [readProperties, Traced.outcome_pure, Except.ok.injEq, List.forall₂_nil_left_iff]
      exact eq_comm
  | cons entry entries ih =>
      obtain ⟨name, value⟩ := entry
      simp only [readProperties, Processing.checked, Traced.outcome_bind_eq_ok_iff,
        Traced.outcome_ofExcept, mapError_eq_ok_iff, Traced.outcome_pure, Except.ok.injEq, ih]
      constructor
      · rintro ⟨fragment, read, isRequired, held, others, later, rfl⟩
        exact .cons (.entry read held) later
      · intro each
        cases each with
        | cons first later =>
            cases first with
            | entry read held => exact ⟨_, read, _, held, _, later, rfl⟩

/-- The mapping of the properties of an object. -/
def declaredEntries (members : List (Text × Json)) : List (Text × Json) :=
  match lookup "properties" members with
  | some (.object entries) => entries
  | _ => []

theorem readsProperties_of_readDeclared {required : Json} {members : List (Text × Json)}
    {properties : List (Property Fragment)}
    (read : (readDeclared marker path required members).outcome = .ok properties) :
    List.Forall₂ (ReadsProperty marker path required) (declaredEntries members) properties := by
  rw [readDeclared_eq] at read
  rw [declaredEntries]
  cases declared : lookup "properties" members with
  | none =>
      rw [declared] at read
      cases read
      exact .nil
  | some mapping =>
      rw [declared] at read
      cases mapping with
      | object entries => exact readProperties_ok_iff.mp read
      | null | bool _ | integer _ | number _ | text _ | array _ =>
          simp only [readMapping] at read
          split at read
          · cases read
          · cases read
            exact .nil

/-- The properties of an object are what the entries of its mapping are read as. -/
theorem readsProperties_of_readObject {members : List (Text × Json)}
    {shape : ObjectShape Fragment}
    (read : (readObject marker path members).outcome = .ok shape) :
    List.Forall₂ (ReadsProperty marker path (requiredNames members)) (declaredEntries members)
      shape.properties := by
  rw [readObject, Traced.outcome_bind_eq_ok_iff] at read
  obtain ⟨properties, declared, rest⟩ := read
  rw [Traced.outcome_bind_eq_ok_iff] at rest
  obtain ⟨described, -, result⟩ := rest
  cases result
  exact readsProperties_of_readDeclared declared

/-! ## Compositions -/

/-- The members of an inline object, which has no reference. -/
def inlineMembers? : Json → Option (List (Text × Json))
  | .object members => if hasKey "$ref" members then none else some members
  | _ => none

/-- The inline objects of a composition. -/
def inlineObjects (members : List (Text × Json)) : List (List (Text × Json)) :=
  match lookup "allOf" members with
  | some composed => (composed.items.toOption.getD []).filterMap inlineMembers?
  | none => []

/-- The shape that the members of an object are read as, at some place. -/
def ReadsShape (marker : Json) (members : List (Text × Json)) (shape : ObjectShape Fragment) :
    Prop :=
  ∃ path, (readObject marker path members).outcome = .ok shape

theorem extension_of_readPart {member : Json} {part : Part}
    (read : (readPart marker path member).outcome = .ok part) :
    (inlineMembers? member = none ∧ part.extension? = none) ∨
      ∃ members shape, inlineMembers? member = some members ∧ part.extension? = some shape ∧
        ReadsShape marker members shape := by
  simp only [readPart, Processing.checked, Traced.outcome_bind_eq_ok_iff,
    Traced.outcome_ofExcept, mapError_eq_ok_iff] at read
  obtain ⟨refers, held, read⟩ := read
  cases member with
  | object members =>
      have key : hasKey "$ref" members = refers := Except.ok.inj held
      cases refers with
      | true =>
          cases read
          exact .inl ⟨if_pos key, rfl⟩
      | false =>
          simp only [Bool.false_eq_true, if_false, Json.members,
            Traced.outcome_bind_eq_ok_iff, Traced.outcome_ofExcept, mapError_eq_ok_iff] at read
          obtain ⟨_, same, shape, read, result⟩ := read
          cases same
          cases result
          exact .inr ⟨members, shape, if_neg (by simp [key]), rfl, path, read⟩
  | null | bool _ | integer _ | number _ => cases held
  | text _ | array _ =>
      cases refers with
      | true => cases read
      | false =>
          obtain ⟨_, ended, -⟩ := Traced.outcome_bind_eq_ok_iff.mp read
          cases ended

/-- The extensions among the parts are what the inline objects are read as. -/
theorem extensions_of_readParts {position : Nat} {listed : List Json} {parts : List Part}
    (read : (readParts marker path position listed).outcome = .ok parts) :
    List.Forall₂ (ReadsShape marker) (listed.filterMap inlineMembers?)
      (parts.filterMap Part.extension?) := by
  induction listed generalizing position parts with
  | nil =>
      cases read
      exact .nil
  | cons member listed ih =>
      rw [readParts, Traced.outcome_bind_eq_ok_iff] at read
      obtain ⟨part, first, rest⟩ := read
      obtain ⟨others, later, result⟩ := Traced.outcome_bind_eq_ok_iff.mp rest
      cases result
      rcases extension_of_readPart first with ⟨link, base⟩ | ⟨members, shape, inline, own, shaped⟩
      · rw [List.filterMap_cons_none link, List.filterMap_cons_none base]
        exact ih later
      · rw [List.filterMap_cons_some inline, List.filterMap_cons_some own]
        exact .cons shaped (ih later)

/-- What the object of a definition is read as. -/
inductive ReadsBody (marker : Json) (members : List (Text × Json)) : Fragment → Prop where
  /-- The extension is what the only inline object is read as, if there is one. -/
  | composition {composed : Json} {place : Place} {base : Option Fragment}
      {shape : Option (ObjectShape Fragment)} (found : lookup "allOf" members = some composed)
      (inline : List.Forall₂ (ReadsShape marker) (inlineObjects members) shape.toList) :
      ReadsBody marker members (.composition place base (shape.map Fragment.object))
  | enumeration {values : Enumeration} : ReadsBody marker members (.enumeration values)
  | object {shape : ObjectShape Fragment} (shaped : ReadsShape marker members shape) :
      ReadsBody marker members (.object shape)

theorem readsBody_of_readComposition {name : Text} {members : List (Text × Json)}
    {composed : Json} {body : Fragment} (found : lookup "allOf" members = some composed)
    (read : (readComposition marker name path members composed).outcome = .ok body) :
    ReadsBody marker members body := by
  simp only [readComposition, Processing.checked, Traced.outcome_bind_eq_ok_iff,
    Traced.outcome_ofExcept, mapError_eq_ok_iff] at read
  obtain ⟨listed, items, parts, partsRead, result⟩ := read
  have objects : inlineObjects members = listed.filterMap inlineMembers? := by
    simp only [inlineObjects, found, items]
    rfl
  have extensions := extensions_of_readParts partsRead
  rw [← objects] at extensions
  generalize parts.filterMap Part.extension? = shapes at result extensions
  match shapes with
  | [] =>
      cases result
      have none : List.Forall₂ (ReadsShape marker) (inlineObjects members)
        (none : Option (ObjectShape Fragment)).toList := extensions
      exact .composition found none
  | [shape] =>
      cases result
      have single : List.Forall₂ (ReadsShape marker) (inlineObjects members)
        (some shape).toList := extensions
      exact .composition found single
  | _ :: _ :: _ => cases result

theorem readsBody_of_readBody {name : Text} {members : List (Text × Json)} {body : Fragment}
    (read : (readBody marker name path members).outcome = .ok body) :
    ReadsBody marker members body := by
  rw [readBody] at read
  cases composed : lookup "allOf" members with
  | some value =>
      rw [composed] at read
      exact readsBody_of_readComposition composed read
  | none =>
      cases listed : lookup "enum" members with
      | some values =>
          simp only [composed, listed] at read
          obtain ⟨_, -, result⟩ := Traced.outcome_bind_eq_ok_iff.mp read
          cases result
          exact .enumeration
      | none =>
          simp only [composed, listed] at read
          obtain ⟨marked, -, rest⟩ := Traced.outcome_bind_eq_ok_iff.mp read
          cases marked with
          | some values =>
              obtain ⟨_, -, result⟩ := Traced.outcome_bind_eq_ok_iff.mp rest
              cases result
              exact .enumeration
          | none =>
              obtain ⟨shape, ended, result⟩ := Traced.outcome_bind_eq_ok_iff.mp rest
              cases result
              exact .object ⟨path, ended⟩

/-- The extension of a composition is what its only inline object is read as. -/
theorem ReadsBody.extension {members : List (Text × Json)} {place : Place}
    {base extension : Option Fragment}
    (reads : ReadsBody marker members (.composition place base extension)) :
    ∃ shape : Option (ObjectShape Fragment), extension = shape.map Fragment.object ∧
      List.Forall₂ (ReadsShape marker) (inlineObjects members) shape.toList := by
  cases reads with
  | composition found inline => exact ⟨_, rfl, inline⟩

/-! ## Fragments -/

/-- What the object of a fragment is read as, by its form. -/
inductive ReadsForm (marker : Json) (members : List (Text × Json)) : Form → Fragment → Prop where
  | reference {place : Place} {target : Json} :
      ReadsForm marker members (.reference target) (.reference ⟨place, target⟩)
  | typeList {place : Place} {types : List Json} :
      ReadsForm marker members (.typeList types) (.typeList place types)
  | array {path : Text} {place : Place} {items : Option Fragment}
      (read : (readAt marker path "items" members).outcome = .ok items) :
      ReadsForm marker members .array (.array place items)
  | object {shape : ObjectShape Fragment} (shaped : ReadsShape marker members shape) :
      ReadsForm marker members .object (.object shape)
  | enumeration {path : Text} {listed : Json} {isOpen : Bool} {values : Enumeration}
      (read : (readEnumeration members listed path isOpen).outcome = .ok values) :
      ReadsForm marker members (.enumeration listed isOpen) (.enumeration values)
  | primitive {place : Place} {typeName : Json} :
      ReadsForm marker members (.primitive typeName) (.primitive place typeName)

theorem exists_form_of_readFragment {value : Json} {fragment : Fragment}
    (read : (readFragment marker path value).outcome = .ok fragment) :
    ∃ members form, value = .object members ∧ formOf marker members = .ok form ∧
      ReadsForm marker members form fragment := by
  cases value with
  | object members =>
      simp only [readFragment, Processing.checked, Traced.outcome_bind_eq_ok_iff,
        Traced.outcome_ofExcept, mapError_eq_ok_iff] at read
      obtain ⟨form, found, rest⟩ := read
      refine ⟨members, form, rfl, found, ?_⟩
      cases form with
      | reference target =>
          cases rest
          exact .reference
      | typeList types =>
          cases rest
          exact .typeList
      | array =>
          obtain ⟨items, ended, result⟩ := Traced.outcome_bind_eq_ok_iff.mp rest
          cases result
          exact .array ended
      | object =>
          obtain ⟨properties, declared, rest⟩ := Traced.outcome_bind_eq_ok_iff.mp rest
          obtain ⟨described, admitted, result⟩ := Traced.outcome_bind_eq_ok_iff.mp rest
          cases result
          refine .object ⟨path, ?_⟩
          simp only [readObject, Traced.outcome_bind_eq_ok_iff]
          exact ⟨properties, declared, described, admitted, rfl⟩
      | enumeration listed isOpen =>
          obtain ⟨values, ended, result⟩ := Traced.outcome_bind_eq_ok_iff.mp rest
          cases result
          exact .enumeration ended
      | primitive typeName =>
          cases rest
          exact .primitive
  | null | bool _ | integer _ | number _ | text _ | array _ => cases read

end ProtocolBindings.Schema
