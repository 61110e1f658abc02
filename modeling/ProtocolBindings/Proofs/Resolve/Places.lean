import ProtocolBindings.Proofs.Resolve.Contribution
import ProtocolBindings.Proofs.Schema.Places

/-!
# Places in messages

What is shown as the place of a notice or of an objection is the path of a node of the
definitions, and the node is what the message is about.  Since the path of a node spells the
route to the object that it was read of, a message leads to the object in the document.
-/

namespace ProtocolBindings

open Schema (Definition Fragment Node ObjectShape Occurs Place definition?)

/-- An origin that is shown in messages: the path of a definition, as such or as the place of a
synthesized entity. -/
def Resolve.IsOrigin (definitions : List Definition) (origin : Text) : Prop :=
  ∃ definition ∈ definitions, ∃ entity, origin = Resolve.originOf definition entity

/-- An objection to a node of some definitions.  Its detail is the path of the node, or
empty, and then its owner is the definition that is refused. -/
inductive ResolutionError.Placed (definitions : List Definition) : ResolutionError → Prop where
  | unresolvedReference {owner reference name : Text} {place : Place}
      (occurs : Occurs definitions (.fragment (.reference ⟨place, .text reference⟩)))
      (named : Reference.name? reference = some name)
      (unknown : definition? definitions name = none) :
      Placed definitions ⟨.unresolvedReference reference, owner, place.path⟩
  | malformedReference {owner reference : Text} {place : Place}
      (occurs : Occurs definitions (.fragment (.reference ⟨place, .text reference⟩)))
      (malformed : Reference.name? reference = none) :
      Placed definitions ⟨.malformedReference reference, owner, place.path⟩
  | tooManyAlternatives {owner : Text} {count : Nat} {place : Place} {types : List Json}
      {required : Bool} (occurs : Occurs definitions (.fragment (.typeList place types)))
      (refused : Resolve.collapse Resolve.standardMembers types required owner place.path =
        .error (.resolution ⟨.tooManyAlternatives count, owner, place.path⟩)) :
      Placed definitions ⟨.tooManyAlternatives count, owner, place.path⟩
  | propertiesInValues {owner : Text} {shape : ObjectShape Fragment}
      (occurs : Occurs definitions (.fragment (.object shape)))
      (declared : shape.declared = true) :
      Placed definitions ⟨.propertiesInValues, owner, shape.place.path⟩
  | duplicateEntity {name origin previous : Text} {definition : Definition}
      (member : definition ∈ definitions) (clashing : Resolve.IsOrigin definitions origin)
      (earlier : Resolve.IsOrigin definitions previous) :
      Placed definitions
        ⟨.duplicateEntity name origin previous, definition.name, definition.place.path⟩
  | unsupportedShape {definition : Definition} (member : definition ∈ definitions) :
      Placed definitions ⟨.unsupportedShape, definition.name, definition.place.path⟩
  | missingDiscriminator {property : Text} {definition : Definition}
      (member : definition ∈ definitions) :
      Placed definitions ⟨.missingDiscriminator property, definition.name, ""⟩
  | missingResponse {expected : Text} {definition : Definition}
      (member : definition ∈ definitions) :
      Placed definitions ⟨.missingResponse expected, definition.name, ""⟩

/-- A run whose notices and whose objection, if it ends with one, are placed. -/
structure Processing.Placed {α : Type} (definitions : List Definition) (run : Processing α) :
    Prop where
  notices : ∀ notice ∈ run.trail, notice.Placed definitions
  errors : ∀ error, run.outcome = .error (.resolution error) → error.Placed definitions

namespace Processing.Placed

variable {α β : Type} {definitions : List Definition} {first : Processing α}
variable {next : α → Processing β}

theorem ofExcept {outcome : Except Failure α}
    (errors : ∀ error, outcome = .error (.resolution error) → error.Placed definitions) :
    Placed definitions (Traced.ofExcept outcome) :=
  ⟨nofun, errors⟩

theorem pure (value : α) : Placed definitions (Pure.pure value) := ofExcept nofun

theorem misused (misuse : Misuse) : Placed definitions (Processing.misused misuse : Processing α) :=
  ofExcept nofun

theorem checked (step : Except Misuse α) : Placed definitions (Processing.checked step) := by
  apply ofExcept
  intro error ended
  cases step with
  | ok value => cases ended
  | error misuse => cases ended

theorem refuse {objection : Objection} {owner detail : Text}
    (placed : ResolutionError.Placed definitions ⟨objection, owner, detail⟩) :
    Placed definitions (Processing.refuse objection owner detail : Processing α) := by
  apply ofExcept
  rintro error ⟨⟩
  exact placed

theorem bind (placed : first.Placed definitions)
    (rest : ∀ value, first.outcome = .ok value → (next value).Placed definitions) :
    (first >>= next).Placed definitions := by
  cases ended : first.outcome with
  | ok value =>
      rw [Traced.bind_of_ok next ended]
      exact ⟨List.forall_mem_append.mpr ⟨placed.notices, (rest value ended).notices⟩,
        (rest value ended).errors⟩
  | error failure =>
      rw [Traced.bind_of_error next ended]
      refine ⟨placed.notices, ?_⟩
      rintro error ⟨⟩
      exact placed.errors error ended

/-- What follows may leave nothing and cannot fail. -/
theorem bind_pure {function : α → β} (placed : first.Placed definitions) :
    (first >>= fun value => Pure.pure (function value)).Placed definitions :=
  placed.bind fun _ _ => pure _

end Processing.Placed

namespace Resolve

open Model
open Processing (Placed)
open Reference (Follow)
open Schema (Additional Link Property)

/-! ## Types -/

section

variable {config : Config} {definitions : List Definition}

theorem follow_placed {owner : Text} {link : Link}
    (occurs : Occurs definitions (.fragment (.reference link))) :
    Placed definitions (followIn config definitions owner link) := by
  obtain ⟨place, target⟩ := link
  cases target with
  | text reference =>
      simp only [followIn, Reference.follow]
      cases named : Reference.name? reference with
      | some name =>
          dsimp only
          split
          · exact .pure name
          · rename_i unknown
            exact .refuse (.unresolvedReference occurs named
              (Option.not_isSome_iff_eq_none.mp unknown))
      | none =>
          dsimp only
          split
          · exact .refuse (.malformedReference occurs named)
          · refine ⟨List.forall_mem_singleton.mpr ?_, nofun⟩
            rintro path ⟨⟩
            exact ⟨_, occurs, rfl, .malformedReference named⟩
  | null | bool _ | integer _ | number _ | array _ | object _ => exact .misused _

theorem ofScalars_refused {scalars : List PrimitiveType} {nullable : Bool} {owner path : Text}
    {error : ResolutionError}
    (refused : ofScalars scalars nullable owner path = .error (.resolution error)) :
    error = ⟨.tooManyAlternatives scalars.length, owner, path⟩ := by
  unfold ofScalars at refused
  split at refused
  · cases refused
  · cases refused
  · split at refused
    · cases refused
      rfl
    · cases refused

theorem collapse_refused {table : MemberTable} {types : List Json} {required : Bool}
    {owner path : Text} {error : ResolutionError}
    (refused : collapse table types required owner path = .error (.resolution error)) :
    ∃ count, error = ⟨.tooManyAlternatives count, owner, path⟩ := by
  unfold collapse at refused
  cases everything : namesEveryType types with
  | error misuse =>
      rw [everything] at refused
      cases refused
  | ok every =>
      cases every with
      | true =>
          rw [everything] at refused
          cases refused
      | false =>
          rw [everything] at refused
          cases scalars : collectScalars table [] types with
          | error misuse =>
              simp only [scalars] at refused
              cases refused
          | ok collected =>
              cases collected with
              | none =>
                  simp only [scalars] at refused
                  cases refused
              | some listed =>
                  simp only [scalars] at refused
                  exact ⟨_, ofScalars_refused refused⟩

theorem ofUndeclared_refused {owner : Text} {additional : Additional Fragment} {nullable : Bool}
    {error : ResolutionError}
    (refused : ofUndeclared owner additional nullable = .error (.resolution error)) :
    ∃ shape : ObjectShape Fragment, additional = .described (.object shape) ∧
      shape.declared = true ∧ error = ⟨.propertiesInValues, owner, shape.place.path⟩ := by
  unfold ofUndeclared at refused
  split at refused
  · cases refused
  · cases refused
  · split at refused
    · rename_i shape
      split at refused
      · rename_i declared
        cases refused
        exact ⟨shape, rfl, declared, rfl⟩
      · cases refused
    · cases refused

theorem settled?_placed {position : Position} {fragment : Fragment}
    (occurs : Occurs definitions (.fragment fragment)) {error : ResolutionError}
    (settles : settled? position fragment = some (.error (.resolution error))) :
    error.Placed definitions := by
  cases fragment with
  | typeList place types =>
      have refused := Option.some.inj settles
      obtain ⟨count, rfl⟩ := collapse_refused refused
      exact .tooManyAlternatives occurs refused
  | object shape =>
      rw [settled?] at settles
      split at settles
      · cases settles
      · obtain ⟨inner, described, declared, rfl⟩ :=
          ofUndeclared_refused (Option.some.inj settles)
        exact .propertiesInValues (occurs.holds (.additional described)) declared
  | primitive place typeName =>
      have refused := Option.some.inj settles
      cases named : ofTypeName typeName (!position.required) with
      | ok type =>
          rw [named] at refused
          cases refused
      | error misuse =>
          rw [named] at refused
          cases refused
  | array place items => cases items <;> cases settles
  | composition place base extension => cases settles
  | reference link => cases settles
  | enumeration values => cases settles

theorem inferOptional_placed {follow : Follow} {position : Position} {fragment : Option Fragment}
    (inner : ∀ present, fragment = some present →
      Placed definitions (infer follow position present)) :
    Placed definitions (inferOptional follow position fragment) := by
  cases fragment with
  | none =>
      rw [inferOptional]
      exact .pure _
  | some present =>
      rw [inferOptional]
      exact inner present rfl

theorem inferProperties_placed {follow : Follow} {owner name : Text}
    {properties : List (Property Fragment)}
    (each : ∀ property ∈ properties, ∀ fragment, property.fragment = some fragment →
      Placed definitions (infer follow (propertyPosition owner name property) fragment)) :
    Placed definitions (inferProperties follow owner name properties) := by
  induction properties with
  | nil =>
      rw [inferProperties]
      exact .pure _
  | cons property rest ih =>
      obtain ⟨first, later⟩ := List.forall_mem_cons.mp each
      rw [inferProperties_cons]
      apply Placed.bind (inferOptional_placed first)
      intro inference _
      exact Placed.bind_pure (ih later)

theorem infer_of_settled_placed {follow : Follow} {position : Position} {fragment : Fragment}
    {result : Except Failure TypeDescriptor} (occurs : Occurs definitions (.fragment fragment))
    (settles : settled? position fragment = some result) :
    Placed definitions (infer follow position fragment) := by
  rw [infer_of_settled follow settles]
  apply Placed.bind_pure
  apply Placed.ofExcept
  rintro error rfl
  exact settled?_placed occurs settles

/-- The messages about the type of a fragment are placed. -/
theorem infer_placed {position : Position} {fragment : Fragment}
    (occurs : Occurs definitions (.fragment fragment)) :
    Placed definitions (infer (followIn config definitions) position fragment) := by
  -- The position changes from a fragment to the fragments inside it.
  induction fragment using Fragment.induct generalizing position with
  | primitive place typeName => exact infer_of_settled_placed occurs rfl
  | typeList place types => exact infer_of_settled_placed occurs rfl
  | bareArray place => exact infer_of_settled_placed occurs rfl
  | composition place base extension => exact infer_of_settled_placed occurs rfl
  | enumeration values =>
      rw [infer]
      exact .pure _
  | reference link =>
      rw [infer]
      exact Placed.bind_pure (follow_placed occurs)
  | array place items ih =>
      rw [infer]
      exact Placed.bind_pure (ih (occurs.holds .items))
  | object shape properties _ =>
      by_cases declared : shape.declared = true
      · rw [infer_declared _ declared]
        apply Placed.bind_pure
        apply inferProperties_placed
        intro property member fragment found
        exact properties property member fragment found
          ((occurs.holds (.property member)).holds (.type found))
      · exact infer_of_settled_placed occurs (by rw [settled?, if_neg declared])

/-! ## Contributions -/

section

variable {owner : Text}

theorem inferPayload?_placed {anchor property : Text} {payload : Option (Property Fragment)}
    (occurs : ∀ own, payload = some own → Occurs definitions (.property own)) :
    Placed definitions
      (inferPayload? (followIn config definitions) owner anchor property payload) := by
  cases payload with
  | none => exact .pure none
  | some own =>
      apply Placed.bind_pure
      apply inferOptional_placed
      intro fragment present
      exact infer_placed ((occurs own rfl).holds (.type present))

/-- The body of a response is a property of a definition. -/
theorem responseBody?_occurs {response : Definition} (member : response ∈ definitions) :
    ∀ own, responseBody? response = some own → Occurs definitions (.property own) := by
  intro own found
  rw [responseBody?] at found
  split at found
  · rename_i place base shape present
    have occurs := (Occurs.body member present).holds .extension
    exact occurs.holds (.property (List.mem_of_find?_eq_some found))
  · rename_i shape present
    exact (Occurs.body member present).holds (.property (List.mem_of_find?_eq_some found))
  · cases found

theorem inlineObject_placed (extension : Option Fragment) :
    Placed definitions (inlineObject extension) := by
  unfold inlineObject
  split
  · exact .pure none
  · exact .pure _
  · exact .misused _

theorem optionHolds_placed (option : Option Json) (name : Option Text) :
    Placed definitions (optionHolds option name) :=
  Placed.bind (.checked _) fun _ _ => .checked _

theorem followBase_placed {base : Option Fragment}
    (occurs : ∀ fragment, base = some fragment → Occurs definitions (.fragment fragment)) :
    Placed definitions (followBase (followIn config definitions) owner base) := by
  unfold followBase
  split
  · exact .pure none
  · exact Placed.bind_pure (follow_placed (occurs _ rfl))
  · exact .misused _

variable {shape : Option (ObjectShape Fragment)}
variable (properties : ∀ property ∈ ownProperties shape, Occurs definitions (.property property))

include properties

theorem recordEntities_placed (base : Option Text) (description : Json) :
    Placed definitions
      (recordEntities (followIn config definitions) owner shape base description) := by
  rw [recordEntities]
  apply Placed.bind_pure
  apply inferProperties_placed
  intro property member fragment present
  exact infer_placed ((properties property member).holds (.type present))

theorem pairRequest_placed {definition : Definition} (member : definition ∈ definitions)
    (place : Place) :
    Placed definitions
      (pairRequest (followIn config definitions) definitions definition.name place shape) := by
  simp only [pairRequest]
  split
  · exact .refuse (.missingDiscriminator member)
  · split
    · exact .refuse (.missingResponse member)
    · rename_i response answered
      obtain ⟨responseName, -, found⟩ := Option.bind_eq_some_iff.mp answered
      apply Placed.bind (inferPayload?_placed fun own sought =>
        properties own (List.mem_of_find?_eq_some sought))
      intro arguments _
      apply Placed.bind_pure
      exact inferPayload?_placed (responseBody?_occurs (List.mem_of_find?_eq_some found))

theorem pairEvent_placed {definition : Definition} (member : definition ∈ definitions)
    (place : Place) :
    Placed definitions
      (pairEvent (followIn config definitions) definition.name place shape) := by
  simp only [pairEvent]
  split
  · exact .refuse (.missingDiscriminator member)
  · apply Placed.bind_pure
    exact inferPayload?_placed fun own sought =>
      properties own (List.mem_of_find?_eq_some sought)

end

theorem properties_of_inlineObject {extension : Option Fragment}
    (occurs : ∀ fragment, extension = some fragment → Occurs definitions (.fragment fragment))
    {shape : Option (ObjectShape Fragment)} (ended : (inlineObject extension).outcome = .ok shape) :
    ∀ property ∈ ownProperties shape, Occurs definitions (.property property) := by
  intro property inside
  unfold inlineObject at ended
  split at ended
  · cases ended
    cases inside
  · cases ended
    exact (occurs _ rfl).holds (.property inside)
  · cases ended

theorem composition_placed {definition : Definition} (member : definition ∈ definitions)
    {place : Place} {base extension : Option Fragment}
    (present : definition.body = some (.composition place base extension)) :
    Placed definitions
      (contribution config (followIn config definitions) definitions definition) := by
  have whole := Occurs.body member present
  have inline : ∀ fragment, extension = some fragment →
      Occurs definitions (.fragment fragment) := by
    rintro fragment rfl
    exact whole.holds .extension
  simp only [contribution, present]
  apply Placed.bind
  · apply followBase_placed
    rintro fragment rfl
    exact whole.holds .base
  · intro baseName _
    split
    · apply Placed.bind (inlineObject_placed extension)
      intro shape ended
      exact Placed.bind_pure
        (pairRequest_placed (properties_of_inlineObject inline ended) member place)
    · split
      · apply Placed.bind (inlineObject_placed extension)
        intro shape ended
        exact Placed.bind_pure
          (pairEvent_placed (properties_of_inlineObject inline ended) member place)
      · apply Placed.bind (optionHolds_placed _ _)
        intro reserved _
        split
        · exact .pure _
        · apply Placed.bind (inlineObject_placed extension)
          intro shape ended
          exact Placed.bind_pure
            (recordEntities_placed (properties_of_inlineObject inline ended) _ _)

/-- The messages about a definition are placed. -/
theorem contribution_placed {definition : Definition} (member : definition ∈ definitions) :
    Placed definitions
      (contribution config (followIn config definitions) definitions definition) := by
  cases present : definition.body with
  | none =>
      simp only [contribution, present]
      exact .refuse (.unsupportedShape member)
  | some body =>
      cases body with
      | composition place base extension => exact composition_placed member present
      | enumeration values =>
          simp only [contribution, present]
          exact .pure _
      | object shape =>
          simp only [contribution, present]
          apply Placed.bind_pure
          apply recordEntities_placed
          intro property inside
          exact (Occurs.body member present).holds (.property inside)
      | primitive | typeList | reference | array =>
          simp only [contribution, present]
          exact .refuse (.unsupportedShape member)

/-! ## Models -/

/-- The recorded origins are origins of entities of the definitions. -/
def OriginsKnown (definitions : List Definition) (origins : Origins) : Prop :=
  ∀ entry ∈ origins, IsOrigin definitions entry.2

theorem isOrigin_of_lookup {origins : Origins} (known : OriginsKnown definitions origins)
    {name origin : Text} (found : origins.lookup name = some origin) :
    IsOrigin definitions origin := by
  obtain ⟨before, after, rfl, -⟩ := List.lookup_eq_some_iff.mp found
  exact known (name, origin) (List.mem_append_right _ List.mem_cons_self)

theorem recordOrigins_ends {definition : Definition} (member : definition ∈ definitions)
    {origins : Origins} (known : OriginsKnown definitions origins) (entities : List Entity) :
    (Traced.ofExcept (recordOrigins definition origins entities) : Processing Origins).Ends
      (OriginsKnown definitions)
      fun failure => ∀ error, failure = .resolution error → error.Placed definitions := by
  induction entities generalizing origins with
  | nil => exact known
  | cons entity entities ih =>
      rw [recordOrigins]
      have own : IsOrigin definitions (originOf definition entity) :=
        ⟨definition, member, entity, rfl⟩
      cases found : origins.lookup entity.name with
      | some previous =>
          rintro error ⟨⟩
          exact .duplicateEntity member own (isOrigin_of_lookup known found)
      | none => exact ih (List.forall_mem_cons.mpr ⟨own, known⟩)

theorem contributions_placed {origins : Origins} (known : OriginsKnown definitions origins)
    {rest : List Definition} (among : ∀ definition ∈ rest, definition ∈ definitions) :
    Placed definitions
      (contributions config (followIn config definitions) definitions origins rest) := by
  induction rest generalizing origins with
  | nil => exact .pure _
  | cons definition rest ih =>
      obtain ⟨member, later⟩ := List.forall_mem_cons.mp among
      rw [contributions]
      apply Placed.bind
      · apply Placed.bind (optionHolds_placed _ _)
        intro ignored _
        split
        · exact .pure true
        · exact optionHolds_placed _ _
      · intro skipped _
        split
        · exact ih known later
        · apply Placed.bind (contribution_placed member)
          intro first _
          have ends := recordOrigins_ends member known first.entities
          apply Placed.bind (.ofExcept fun error ended => ends.of_error ended error rfl)
          intro recorded ended
          exact Placed.bind_pure (ih (ends.of_ok ended) later)

/-- The messages of an analysis are placed. -/
theorem analyze_placed (version : Json) :
    Placed definitions (analyze config definitions version) := by
  rw [analyze]
  apply Placed.bind (contributions_placed (List.forall_mem_nil _) fun _ member => member)
  intro parts _
  apply Placed.bind_pure
  exact ⟨List.forall_mem_singleton.mpr (.of_none rfl), nofun⟩

end

/-- Every node of the definitions of a document is located, and so is what any message about
them shows. -/
structure PointsInto (config : Config) (document version : Json) (definitions : List Definition) :
    Prop where
  nodes : ∀ node, Occurs definitions node →
    Schema.Located config.openEnumMarker document definitions node
  notices : ∀ notice ∈ (resolve config document version).trail, notice.Placed definitions
  errors : ∀ error, (resolve config document version).outcome = .error (.resolution error) →
    error.Placed definitions

section

variable {config : Config} {document version : Json} {definitions : List Definition}

theorem pointsInto_of_definitions (distinct : document.DistinctKeys)
    (ended : (Schema.read config.openEnumMarker document).outcome = .ok definitions) :
    PointsInto config document version definitions := by
  have reports := Schema.read_reports config.openEnumMarker distinct
  have analysis : Placed definitions (analyze config definitions version) := analyze_placed version
  constructor
  · exact fun node occurs => Schema.located_of_occurs distinct ended occurs
  · rw [resolve, Traced.bind_of_ok _ ended]
    exact List.forall_mem_append.mpr ⟨reports.entries definitions ended, analysis.notices⟩
  · rw [resolve, Traced.bind_of_ok _ ended]
    exact analysis.errors

theorem refusedAt_of_error {error : ResolutionError} (distinct : document.DistinctKeys)
    (ended : (Schema.read config.openEnumMarker document).outcome =
      .error (.resolution error)) : Schema.RefusedAt document error :=
  (Schema.read_reports config.openEnumMarker distinct).errors _ ended error rfl

end

/-- The messages about a document lead to the objects that they are about, whether it can be
read or not. -/
theorem pointsInto_of_distinctKeys (config : Config) {document : Json}
    (distinct : document.DistinctKeys) (version : Json) :
    (∀ definitions, (Schema.read config.openEnumMarker document).outcome = .ok definitions →
      PointsInto config document version definitions) ∧
    ∀ error, (Schema.read config.openEnumMarker document).outcome = .error (.resolution error) →
      Schema.RefusedAt document error := by
  constructor
  · exact fun _ ended => pointsInto_of_definitions distinct ended
  · exact fun _ ended => refusedAt_of_error distinct ended

/-- The objects of a document that was read from a text have each key once, so that the messages
about it lead into it. -/
theorem pointsInto_of_text (config : Config) {text : String} {document : Json}
    (given : Json.read text = .ok document) (version : Json) :
    (∀ definitions, (Schema.read config.openEnumMarker document).outcome = .ok definitions →
      PointsInto config document version definitions) ∧
    ∀ error, (Schema.read config.openEnumMarker document).outcome = .error (.resolution error) →
      Schema.RefusedAt document error := by
  have distinct : document.DistinctKeys := Json.distinctKeys_read given
  constructor
  · exact fun _ ended => pointsInto_of_definitions distinct ended
  · exact fun _ ended => refusedAt_of_error distinct ended

/-- A composition with an enumeration that repeats a value, and a reference that is not
well-formed. -/
def polygonDocument : Json :=
  .object [("definitions", .object
    [("Polygon", .object [("allOf", .array
      [.object [("$ref", .text "#/definitions/Shape")],
        .object [("properties", .object
          [("sides", .object
            [("type", .text "array"), ("items", .object [("$ref", .text "Side")])]),
          ("tags", .object
            [("type", .text "object"),
              ("additionalProperties", .object
                [("enum", .array [.text "open", .text "open"])])])])]])]),
    ("Shape", .object [])])]

theorem distinctKeys_polygonDocument : polygonDocument.DistinctKeys := by
  simp +decide [polygonDocument, Json.distinctKeys_object_iff, Json.distinctKeys_array_iff,
    Json.DistinctKeys.atom]

theorem pointsInto_polygonDocument :
    polygonDocument.DistinctKeys ∧
    (∃ definitions, (Schema.read (.text "_enum") polygonDocument).outcome = .ok definitions ∧
      PointsInto {} polygonDocument .null definitions) ∧
    (resolve {} polygonDocument .null).trail.filterMap Notice.schemaPath? =
      [Text.ofString
          "#/definitions/Polygon/allOf/1/properties/tags/additionalProperties",
        Text.ofString "#/definitions/Polygon/allOf/1/properties/sides/items"] := by
  refine ⟨distinctKeys_polygonDocument, ?_, by decide +kernel⟩
  have succeeds : (Schema.read (.text "_enum") polygonDocument).outcome.isOk = true := by
    decide +kernel
  have ended := Traced.outcome_eq_valueOr [] succeeds
  exact ⟨_, ended, (pointsInto_of_distinctKeys {} distinctKeys_polygonDocument .null).1 _ ended⟩

end Resolve

end ProtocolBindings
