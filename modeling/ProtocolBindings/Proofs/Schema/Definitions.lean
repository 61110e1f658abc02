import Mathlib.Data.List.Nodup
import Mathlib.Data.List.Perm.Basic
import ProtocolBindings.Proofs.Json
import ProtocolBindings.Proofs.Traced
import ProtocolBindings.Schema.Reader

/-!
# Definitions of a document

The definitions of a document are what its entries are read as, one for one and in
order, with comments left out.  If no key repeats, then no name does, and a definition is
found by its name wherever it stands.
-/

namespace ProtocolBindings.Schema

open Json (field)

/-- A definition that an entry is read as. -/
inductive ReadAs (marker : Json) : Text × Json → Definition → Prop where
  | object {name : Text} {members : List (Text × Json)} {body : Fragment}
      (read : (readBody marker name (definitionPath name) members).outcome = .ok body) :
      ReadAs marker (name, .object members) {
        name := name
        place := ⟨definitionPath name, field members "description"⟩
        body := some body }

theorem ReadAs.name {marker : Json} {entry : Text × Json} {definition : Definition}
    (read : ReadAs marker entry definition) : definition.name = entry.1 := by
  cases read
  rfl

/-- The entries that are no comments. -/
def described (entries : List (Text × Json)) : List (Text × Json) :=
  entries.filter fun entry => !isComment entry.1 entry.2

/-- The definitions are what the entries are read as. -/
theorem readDefinitions_ok_iff {marker : Json} {entries : List (Text × Json)}
    {definitions : List Definition} :
    (readDefinitions marker entries).outcome = .ok definitions ↔
      List.Forall₂ (ReadAs marker) (described entries) definitions := by
  induction entries generalizing definitions with
  | nil =>
      rw [readDefinitions, Traced.outcome_pure, Except.ok.injEq, described, List.filter_nil,
        List.forall₂_nil_left_iff]
      exact eq_comm
  | cons entry entries ih =>
      obtain ⟨name, value⟩ := entry
      rw [readDefinitions]
      by_cases comment : isComment name value = true
      · have passed : described ((name, value) :: entries) = described entries := by
          simp [described, comment]
        rw [if_pos comment, passed]
        exact ih
      · have taken : described ((name, value) :: entries) = (name, value) :: described entries := by
          simp [described, comment]
        rw [if_neg comment, taken]
        cases value with
        | object members =>
            rw [Json.members, Processing.checked_ok, pure_bind]
            simp only [Traced.outcome_bind_eq_ok_iff, Traced.outcome_pure, Except.ok.injEq]
            constructor
            · rintro ⟨body, read, others, later, rfl⟩
              exact .cons (.object read) (ih.mp later)
            · intro each
              cases each with
              | cons first later =>
                  cases first with
                  | object read => exact ⟨_, read, _, ih.mpr later, rfl⟩
        | _ => exact absurd rfl comment

theorem read_ok_iff {marker document : Json} {definitions : List Definition} :
    (read marker document).outcome = .ok definitions ↔
      ∃ members entries, document.members = .ok members ∧
        (field members "definitions").optionalMembers = .ok entries ∧
        (readDefinitions marker entries).outcome = .ok definitions := by
  simp only [read, Processing.checked, Traced.outcome_bind_eq_ok_iff, Traced.outcome_ofExcept,
    mapError_eq_ok_iff, Traced.outcome_pure, Except.ok.injEq]
  constructor
  · rintro ⟨members, held, entries, found, _, ended, _, _, rfl⟩
    exact ⟨members, entries, held, found, ended⟩
  · rintro ⟨members, entries, held, found, ended⟩
    exact ⟨members, held, entries, found, definitions, ended, (), rfl, rfl⟩

/-- The document with some members and the given definitions. -/
def documentOf (members entries : List (Text × Json)) : Json :=
  .object (Json.assign "definitions" (.object entries) members)

theorem read_documentOf_ok_iff {marker : Json} {members entries : List (Text × Json)}
    {definitions : List Definition} :
    (read marker (documentOf members entries)).outcome = .ok definitions ↔
      (readDefinitions marker entries).outcome = .ok definitions := by
  have found : (field (Json.assign "definitions" (.object entries) members)
      "definitions").optionalMembers = .ok entries := by
    rw [field, Json.lookup_assign, Option.getD_some, Json.optionalMembers]
    cases entries <;> rfl
  rw [read_ok_iff]
  constructor
  · rintro ⟨_, _, held, others, ended⟩
    cases held
    cases found.symm.trans others
    exact ended
  · exact fun ended => ⟨_, entries, rfl, found, ended⟩

section

variable {marker : Json} {entries : List (Text × Json)} {definitions : List Definition}

theorem names_of_readAs {taken : List (Text × Json)}
    (each : List.Forall₂ (ReadAs marker) taken definitions) :
    definitions.map Definition.name = taken.map Prod.fst := by
  induction each with
  | nil => rfl
  | cons first _ ih => rw [List.map_cons, List.map_cons, first.name, ih]

/-- Each of the values is related to one of the parts. -/
theorem exists_mem_of_forall₂ {α β : Type} {related : α → β → Prop} {parts : List α}
    {values : List β} (each : List.Forall₂ related parts values) :
    ∀ value ∈ values, ∃ part ∈ parts, related part value := by
  induction each with
  | nil => exact nofun
  | @cons part value parts values first _ ih =>
      refine List.forall_mem_cons.mpr ⟨⟨part, List.mem_cons_self, first⟩, fun other member => ?_⟩
      obtain ⟨found, among, holds⟩ := ih other member
      exact ⟨found, List.mem_cons_of_mem _ among, holds⟩

/-- A definition is read of an entry with its name. -/
theorem exists_entry_of_readAs {taken : List (Text × Json)}
    (each : List.Forall₂ (ReadAs marker) taken definitions) :
    ∀ definition ∈ definitions, ∃ value, (definition.name, value) ∈ taken ∧
      ReadAs marker (definition.name, value) definition := by
  intro definition member
  obtain ⟨⟨name, value⟩, among, read⟩ := exists_mem_of_forall₂ each definition member
  cases read with
  | object read => exact ⟨_, among, .object read⟩

/-- The entries of the definitions of a document. -/
def entriesOf (document : Json) : List (Text × Json) :=
  match document with
  | .object members => (field members "definitions").optionalMembers.toOption.getD []
  | _ => []

theorem exists_entry_of_read {marker document : Json} {definitions : List Definition}
    (ended : (read marker document).outcome = .ok definitions) :
    ∀ definition ∈ definitions, ∃ value, (definition.name, value) ∈ entriesOf document ∧
      ReadAs marker (definition.name, value) definition := by
  obtain ⟨members, entries, held, found, ended⟩ := read_ok_iff.mp ended
  have whole : entriesOf document = entries := by
    cases document with
    | object own =>
        cases held
        rw [entriesOf, found]
        rfl
    | _ => cases held
  rw [whole]
  intro definition member
  obtain ⟨value, among, entryRead⟩ :=
    exists_entry_of_readAs (readDefinitions_ok_iff.mp ended) definition member
  exact ⟨value, List.mem_of_mem_filter among, entryRead⟩

theorem ReadAs.path {entry : Text × Json} {definition : Definition}
    (read : ReadAs marker entry definition) : definition.place.path = definitionPath entry.1 := by
  cases read
  rfl

theorem names_nodup_of_readDefinitions (distinct : (entries.map Prod.fst).Nodup)
    (read : (readDefinitions marker entries).outcome = .ok definitions) :
    (definitions.map Definition.name).Nodup := by
  rw [names_of_readAs (readDefinitions_ok_iff.mp read)]
  exact distinct.sublist (List.filter_sublist.map Prod.fst)

/-- Entries in another order are read as the same definitions in another order. -/
theorem readDefinitions_perm {others : List (Text × Json)} (permuted : entries.Perm others)
    (read : (readDefinitions marker entries).outcome = .ok definitions) :
    ∃ moved, (readDefinitions marker others).outcome = .ok moved ∧ definitions.Perm moved := by
  have filtered : (described others).Perm (described entries) := permuted.symm.filter _
  obtain ⟨moved, each, same⟩ :=
    List.perm_comp_forall₂ filtered (readDefinitions_ok_iff.mp read)
  exact ⟨moved, readDefinitions_ok_iff.mpr each, same.symm⟩

end

/-- Entries that list a request before its response, and a record before its base. -/
def pixelEntries : List (Text × Json) :=
  let link (name : Text) : Json := .object [("$ref", .text ("#/definitions/" ++ name))]
  let letters (values : List Text) : Json := .object [("enum", .array (values.map .text))]
  let extending (base : Text) (properties : List (Text × Json)) : Json :=
    .object [("allOf", .array [link base, .object [("properties", .object properties)]])]
  [("PickRequest", extending "Request" [("command", letters ["pick"])]),
    ("Pixel", extending "Point" [("color", letters ["red", "green"])]),
    ("Request", .object []),
    ("Response", .object []),
    ("PickResponse", extending "Response" [("body", link "Point")]),
    ("Point", .object [("properties", .object [("x", .object [("type", .text "integer")])])])]

/-! ## Definitions by name -/

theorem definition?_eq_some_iff {definitions : List Definition}
    (distinct : (definitions.map Definition.name).Nodup) {name : Text}
    {definition : Definition} :
    definition? definitions name = some definition ↔
      definition ∈ definitions ∧ definition.name = name := by
  constructor
  · intro found
    exact ⟨List.mem_of_find?_eq_some found, by simpa using List.find?_some found⟩
  · rintro ⟨member, rfl⟩
    cases found : definition? definitions definition.name with
    | none =>
        have absent := List.find?_eq_none.mp found definition member
        simp at absent
    | some other =>
        have same : other.name = definition.name := by simpa using List.find?_some found
        rw [List.inj_on_of_nodup_map distinct (List.mem_of_find?_eq_some found) member same]

/-- Where a definition stands makes no difference to finding it. -/
theorem definition?_perm {definitions others : List Definition}
    (distinct : (definitions.map Definition.name).Nodup)
    (permuted : definitions.Perm others) : definition? definitions = definition? others := by
  have othersDistinct := (permuted.map Definition.name).nodup_iff.mp distinct
  funext name
  ext definition
  rw [definition?_eq_some_iff distinct, definition?_eq_some_iff othersDistinct,
    permuted.mem_iff]

end ProtocolBindings.Schema
