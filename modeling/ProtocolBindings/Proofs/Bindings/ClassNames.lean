import ProtocolBindings.Proofs.Bindings.Identifier
import ProtocolBindings.Proofs.Resolve.NamePaths
import ProtocolBindings.Text.Identifier

/-!
# Names of classes

The class of an entity has the name of the entity as it is.  The name of a synthesized
entity continues that of a message by the names of properties, which can hold any symbol.
It can be the name of a class exactly if every symbol of them can stand in an identifier:
no such name is a keyword, as each of its parts starts with no small letter.
-/

namespace ProtocolBindings

/-! ## Upper case -/

namespace Text

/-- A text starts with a small letter of ASCII. -/
def startsLower (text : Text) : Bool := text.head?.any (Symbol.is Char.isLower)

theorem isLower_ofNat {point : Nat} (apart : point < 97 ∨ 122 < point) :
    (Char.ofNat point).isLower = false := by
  rw [Bool.eq_false_iff, Ne, isLower_iff]
  by_cases valid : point.isValidChar
  · have same : (Char.ofNat point).toNat = point := by
      rw [Char.ofNat, dif_pos valid]
      rfl
    omega
  · rw [Char.ofNat, dif_neg valid]
    decide

/-- Every upper-case form of several characters starts with no small letter. -/
theorem upperExpansions_apart : ∀ entry ∈ upperExpansions,
    (ofCharacters (entry.2.map Char.ofNat)).head?.any
      (fun first => !first.is Char.isLower) = true := by
  decide +kernel

/-- No run of upper-case images meets the small letters of ASCII. -/
theorem upperRuns_apart : ∀ run ∈ upperRuns,
    run.image + (run.last - run.first) < 97 ∨ 122 < run.image := by
  decide +kernel

theorem imageIn_upperRuns_apart {point : Nat} (beyond : 122 < point) :
    imageIn upperRuns point < 97 ∨ 122 < imageIn upperRuns point := by
  rw [imageIn]
  split
  · rename_i run found
    have holds := List.find?_some found
    simp only [Bool.and_eq_true, decide_eq_true_eq] at holds
    have apart := upperRuns_apart run (List.mem_of_find?_eq_some found)
    omega
  · exact .inr beyond

/-- The upper-case form of a symbol is not empty and starts with no small letter. -/
theorem exists_upperSymbol_eq (symbol : Symbol) :
    ∃ first others, upperSymbol symbol = first :: others ∧ first.is Char.isLower = false := by
  cases symbol with
  | half offset => exact ⟨_, [], rfl, rfl⟩
  | char character =>
      rw [upperSymbol, upperCharacter]
      split
      · exact ⟨_, [], rfl, isLower_toUpper character⟩
      · split
        · rename_i images found
          obtain ⟨before, after, stands, _⟩ := List.lookup_eq_some_iff.mp found
          have apart := upperExpansions_apart (character.toNat, images) (by simp [stands])
          cases images with
          | nil => cases apart
          | cons image others => exact ⟨_, _, rfl, by simpa [ofCharacters] using apart⟩
        · refine ⟨_, [], rfl, isLower_ofNat (imageIn_upperRuns_apart ?_)⟩
          omega

end Text

namespace Naming

/-- What a path of properties adds to a name. -/
theorem along_eq_append (root : Text) (path : List Text) :
    along root path = root ++ path.flatMap capitalize := by
  induction path generalizing root with
  | nil => rw [List.flatMap_nil, List.append_nil]; rfl
  | cons property path ih =>
      rw [List.flatMap_cons, ← List.append_assoc]
      exact ih (synthesized root property)

theorem startsLower_capitalize (property : Text) :
    Text.startsLower (capitalize property) = false := by
  cases property with
  | nil => rfl
  | cons first rest =>
      obtain ⟨upper, others, same, apart⟩ := Text.exists_upperSymbol_eq first
      rw [capitalize, same]
      exact apart

/-- No ending that a path adds starts with a small letter. -/
theorem startsLower_flatMap_capitalize (path : List Text) :
    Text.startsLower (path.flatMap capitalize) = false := by
  induction path with
  | nil => rfl
  | cons property path ih =>
      rw [List.flatMap_cons]
      cases added : capitalize property with
      | nil => exact ih
      | cons first others =>
          have apart := startsLower_capitalize property
          rw [added] at apart
          exact apart

end Naming

/-! ## Names that a class can have -/

namespace Bindings

open Model
open Resolve (HasEntityAt)
open Schema (Definition)

/-- The generated language keeps a word for itself. -/
def isKeyword (name : Text) : Bool := keywords.any fun word => name = Text.ofString word

/-- The generated language accepts a text as the name of a class. -/
def isClassName (name : Text) : Bool :=
  name.characters?.any Text.isIdentifier && !isKeyword name

/-- All that a property adds to the name of an entity can stand in an identifier. -/
def continuesName (property : Text) : Bool :=
  (Naming.capitalize property).all (Symbol.is Text.isIdentifierContinue)

theorem characters?_char (value : Char) (text : Text) :
    Text.characters? (.char value :: text) = (Text.characters? text).map (value :: ·) := by
  rw [Text.characters?, List.mapM_cons]
  cases read : Text.characters? text <;> simp_all [Text.characters?, Symbol.char?]

theorem characters?_any_all (test : Char → Bool) (text : Text) :
    text.characters?.any (List.all · test) = text.all (Symbol.is test) := by
  induction text with
  | nil => rfl
  | cons symbol text ih =>
      rw [List.all_cons, ← ih]
      cases symbol with
      | half offset => rfl
      | char value =>
          rw [characters?_char, Option.any_map]
          cases Text.characters? text <;> simp [Symbol.is]

/-- The first symbol of an identifier starts it, and the others continue it. -/
theorem characters?_any_isIdentifier_cons (first : Symbol) (rest : Text) :
    (Text.characters? (first :: rest)).any Text.isIdentifier =
      (first.is Text.isIdentifierStart && rest.all (Symbol.is Text.isIdentifierContinue)) := by
  rw [← characters?_any_all]
  cases first with
  | half offset => rfl
  | char value =>
      rw [characters?_char, Option.any_map]
      cases Text.characters? rest <;> simp [Symbol.is, Text.isIdentifier]

/-- The first symbol of the name of a class starts an identifier, the others continue it,
and the whole is no keyword. -/
theorem isClassName_cons (first : Symbol) (rest : Text) :
    isClassName (first :: rest) =
      (first.is Text.isIdentifierStart && rest.all (Symbol.is Text.isIdentifierContinue) &&
        !isKeyword (first :: rest)) := by
  rw [isClassName, characters?_any_isIdentifier_cons]

theorem keywords_tail_lower : ∀ word ∈ keywords,
    (Text.ofString word).tail.all (Symbol.is Char.isLower) = true := by
  decide +kernel

theorem isKeyword_append {root ending : Text} (named : root ≠ []) (continued : ending ≠ [])
    (apart : Text.startsLower ending = false) : isKeyword (root ++ ending) = false := by
  obtain ⟨first, others, rfl⟩ := List.exists_cons_of_ne_nil named
  obtain ⟨symbol, rest, rfl⟩ := List.exists_cons_of_ne_nil continued
  rw [isKeyword, List.any_eq_false]
  intro word among same
  -- The ending would stand in the tail of the keyword, where all letters are small.
  have lower := keywords_tail_lower word among
  rw [← of_decide_eq_true same, List.cons_append, List.tail_cons, List.all_append,
    List.all_cons, show symbol.is Char.isLower = false from apart] at lower
  simp at lower

/-- A name can be continued by whatever can stand in an identifier and starts with no small
letter. -/
theorem isClassName_append {root ending : Text} (usable : isClassName root = true)
    (apart : Text.startsLower ending = false) :
    isClassName (root ++ ending) = ending.all (Symbol.is Text.isIdentifierContinue) := by
  cases root with
  | nil => cases usable
  | cons first others =>
      by_cases continued : ending = []
      · rw [continued, List.append_nil, usable, List.all_nil]
      · rw [isClassName_cons] at usable
        simp only [Bool.and_eq_true] at usable
        rw [List.cons_append, isClassName_cons, ← List.cons_append,
          isKeyword_append (List.cons_ne_nil _ _) continued apart, List.all_append]
        simp [usable]

/-- A path leads to the name of a class exactly if each of its properties continues names. -/
theorem isClassName_along {root : Text} (usable : isClassName root = true) (path : List Text) :
    isClassName (Naming.along root path) = path.all continuesName := by
  rw [Naming.along_eq_append,
    isClassName_append usable (Naming.startsLower_flatMap_capitalize path), List.all_flatMap]
  rfl

/-- The names of the entities of a model, and which of them can be names of classes. -/
structure NamesEntities (config : Config) (definitions : List Definition) (model : Model) :
    Prop where
  names : ∀ name, name ∈ model.entities.map Entity.name ↔
    ∃ root path, HasEntityAt config definitions root path ∧ name = Naming.along root path
  usable : ∀ root path, HasEntityAt config definitions root path →
    (isClassName (Naming.along root path) = true ↔
      ∀ property ∈ path, continuesName property = true)
  allUsable : (∀ entity ∈ model.entities, isClassName entity.name = true) ↔
    ∀ root path, HasEntityAt config definitions root path →
      ∀ property ∈ path, continuesName property = true

section

variable {config : Config} {definitions : List Definition} {version : Json} {model : Model}

theorem isClassName_of_hasEntityAt
    (usable : ∀ definition ∈ definitions, isClassName definition.name = true)
    {root : Text} {path : List Text} (leads : HasEntityAt config definitions root path) :
    isClassName root = true := by
  obtain ⟨definition, member, rfl | rfl⟩ := leads.exists_root
  · exact usable definition member
  · rw [isClassName_append (usable definition member) (by decide)]
    decide

/-- If the definitions of a document have names of classes, an entity of its model has one
exactly if all properties on its path continue names. -/
theorem namesEntities_of_resolve {document : Json}
    (read : (Schema.read config.openEnumMarker document).outcome = .ok definitions)
    (usable : ∀ definition ∈ definitions, isClassName definition.name = true)
    (resolved : (Resolve.resolve config document version).outcome = .ok model) :
    NamesEntities config definitions model := by
  have names := Resolve.mem_entityNames_of_analyze (Resolve.analyze_of_resolve read resolved)
  have each : ∀ root path, HasEntityAt config definitions root path →
      (isClassName (Naming.along root path) = true ↔
        ∀ property ∈ path, continuesName property = true) := by
    intro root path leads
    rw [isClassName_along (isClassName_of_hasEntityAt usable leads), List.all_eq_true]
  refine ⟨names, each, ?_, ?_⟩
  · intro all root path leads
    obtain ⟨entity, member, same⟩ := List.mem_map.mp ((names _).mpr ⟨root, path, leads, rfl⟩)
    rw [← each root path leads, ← same]
    exact all entity member
  · intro all entity member
    obtain ⟨root, path, leads, same⟩ := (names _).mp (List.mem_map_of_mem member)
    rw [same, each root path leads]
    exact all root path leads

end

/-- A document with an inline enumeration whose property holds a hyphen, and with an inline
record and an inline enumeration below an array. -/
def shapeDocument : Json :=
  let enumeration (value : Text) : Json := .object [("enum", .array [.text value])]
  let record (properties : List (Text × Json)) : Json :=
    .object [("properties", .object properties)]
  .object [("definitions", .object [("Shape", record [
    ("fill-mode", enumeration "solid"),
    ("2nd", .object [("type", .text "array"), ("items", record [("kind", enumeration "arc")])])])])]

/-- The definitions of that document. -/
def shapeDefinitions : List Definition :=
  (Schema.read (.text "_enum") shapeDocument).valueOr []

theorem read_shapeDocument :
    (Schema.read (.text "_enum") shapeDocument).outcome = .ok shapeDefinitions :=
  Traced.outcome_eq_valueOr [] (by decide +kernel)

theorem namesEntities_shapeDocument :
    ∃ model, (Resolve.resolve {} shapeDocument .null).outcome = .ok model ∧
      model.entities.map Entity.name =
        (["Shape", "ShapeFill-mode", "Shape2nd", "Shape2ndKind"] : List Text) ∧
      (∀ definition ∈ shapeDefinitions, isClassName definition.name = true) ∧
      NamesEntities {} shapeDefinitions model := by
  have usable : ∀ definition ∈ shapeDefinitions, isClassName definition.name = true := by
    decide +kernel
  have known : (Resolve.resolve {} shapeDocument .null).outcome.toOption.map
      (fun model => model.entities.map Entity.name) =
        some (["Shape", "ShapeFill-mode", "Shape2nd", "Shape2ndKind"] : List Text) := by
    decide +kernel
  obtain ⟨model, resolved, named⟩ := Traced.exists_ok_of_map known
  exact ⟨model, resolved, named, usable,
    namesEntities_of_resolve read_shapeDocument usable resolved⟩

/-- The hyphen of a property stands in the name of an entity, although the names of all
definitions can be names of classes. -/
theorem shapeDocument_unusableName :
    ∃ model, (Resolve.resolve {} shapeDocument .null).outcome = .ok model ∧
      (∀ definition ∈ shapeDefinitions, isClassName definition.name = true ∧
        ∀ symbol ∈ definition.name, symbol.point < 128) ∧
      ∃ entity ∈ model.entities, entity.name = Text.ofString "ShapeFill-mode" ∧
        isClassName entity.name = false := by
  have known : (Resolve.resolve {} shapeDocument .null).outcome.toOption.map
      (fun model => decide (∃ entity ∈ model.entities,
        entity.name = Text.ofString "ShapeFill-mode")) = some true := by
    decide +kernel
  obtain ⟨model, resolved, found⟩ := Traced.exists_ok_of_map known
  obtain ⟨entity, member, named⟩ := of_decide_eq_true found
  refine ⟨model, resolved, by decide +kernel, entity, member, named, ?_⟩
  rw [named]
  decide +kernel

end Bindings

end ProtocolBindings
