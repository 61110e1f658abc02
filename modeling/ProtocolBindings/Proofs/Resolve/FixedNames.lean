import ProtocolBindings.Proofs.Resolve.Blame
import ProtocolBindings.Proofs.Resolve.Classification
import ProtocolBindings.Proofs.Resolve.Partition
import ProtocolBindings.Proofs.Schema.Definitions
import ProtocolBindings.Proofs.Schema.Parts

/-!
# Names of operations

The name under which a request or an event is exchanged is the first of the values that a
property of its definition lists.  Values that are only suggested count for this as well as
those of a closed enumeration, and a definition without either is refused.
-/

namespace ProtocolBindings

open Json (lookup field)

namespace Schema

/-! ## First values -/

/-- An object whose fragment is an enumeration, and the text of the first value. -/
inductive Fixes (marker : Json) (isOpen : Bool) : Json → Text → Prop where
  | first {members : List (Text × Json)} {values value : Json} {rest : List Json}
      (formed : Formed marker members (.enumeration values isOpen))
      (listed : values.items = .ok (value :: rest)) :
      Fixes marker isOpen (.object members) value.display

/-- The text of the first value that a fragment lists. -/
def firstValue? : Fragment → Option Text
  | .enumeration values => values.values.head?
  | _ => none

theorem head?_readValues {path : Text} {descriptions : Json} {items : List Json}
    {values : List (Text × Json)}
    (read : (readValues path descriptions 0 [] items).outcome = .ok values) :
    (values.map Prod.fst).head? = items.head?.map Json.display := by
  cases items with
  | nil =>
      cases read
      rfl
  | cons value items =>
      rw [readValues, if_neg List.not_mem_nil, Traced.outcome_bind_eq_ok_iff] at read
      obtain ⟨description, -, rest⟩ := read
      obtain ⟨others, -, result⟩ := Traced.outcome_bind_eq_ok_iff.mp rest
      cases result
      rfl

theorem head?_readEnumeration {members : List (Text × Json)} {listed : Json} {path : Text}
    {isOpen : Bool} {values : Enumeration}
    (read : (readEnumeration members listed path isOpen).outcome = .ok values) :
    ∃ items, listed.items = .ok items ∧ values.values.head? = items.head?.map Json.display := by
  simp only [readEnumeration, Processing.checked, Traced.outcome_bind_eq_ok_iff,
    Traced.outcome_ofExcept, mapError_eq_ok_iff, Traced.outcome_pure, Except.ok.injEq] at read
  obtain ⟨items, found, texts, ended, rfl⟩ := read
  exact ⟨items, found, head?_readValues ended⟩

/-- An object whose form is an enumeration is found to be of that form. -/
theorem formOf_of_formed {marker : Json} {members : List (Text × Json)} {values : Json}
    {isOpen : Bool} (formed : Formed marker members (.enumeration values isOpen)) :
    formOf marker members = .ok (.enumeration values isOpen) := by
  cases formed with
  | closed direct textual listed =>
      rw [formOf, direct]
      rcases textual with type | type
      all_goals
        rw [type, listed]
        rfl
  | opened direct textual unlisted marked =>
      rw [formOf, direct]
      rcases textual with type | type
      all_goals
        rw [type, unlisted, marked]
        rfl

variable {marker : Json} {path : Text}

/-- A fragment that was read lists a first value if the object fixes it. -/
theorem firstValue?_eq_some_iff {value : Json} {fragment : Fragment} {text : Text}
    (read : (readFragment marker path value).outcome = .ok fragment) :
    firstValue? fragment = some text ↔ ∃ isOpen, Fixes marker isOpen value text := by
  obtain ⟨members, form, rfl, found, reads⟩ := exists_form_of_readFragment read
  constructor
  · intro first
    cases reads with
    | @enumeration _ _ isOpen _ ended =>
        obtain ⟨items, listed, head⟩ := head?_readEnumeration ended
        rw [firstValue?, head] at first
        cases items with
        | nil => cases first
        | cons value items =>
            cases first
            exact ⟨isOpen, .first (formed_of_formOf found) listed⟩
    | reference | typeList | array | object | primitive => cases first
  · rintro ⟨isOpen, fixes⟩
    cases fixes with
    | first formed listed =>
        cases (formOf_of_formed formed).symm.trans found
        cases reads with
        | enumeration ended =>
            obtain ⟨items, values, head⟩ := head?_readEnumeration ended
            cases listed.symm.trans values
            exact head

/-! ## Stated names -/

/-- The inline object of a composition states a text, by the property of a key. -/
inductive States (marker : Json) (key : Text) (isOpen : Bool) : Json → Text → Prop where
  | inline {members own : List (Text × Json)} {value : Json} {text : Text}
      (among : own ∈ inlineObjects members)
      (declared : lookup key (declaredEntries own) = some value)
      (fixes : Fixes marker isOpen value text) :
      States marker key isOpen (.object members) text

end Schema

namespace Resolve

open Model
open Schema (Definition Fixes Fragment ObjectShape Place Property ReadAs ReadsProperty States
  declaredEntries entriesOf firstValue? inlineObjects)
open Reference (Follow)

theorem fixedValue?_eq_bind (properties : List (Property Fragment)) (key : Text) :
    fixedValue? properties key =
      (propertyNamed? properties key).bind fun property => property.fragment.bind firstValue? := by
  rw [fixedValue?, ← propertyNamed?]
  cases propertyNamed? properties key with
  | none => rfl
  | some property =>
      obtain ⟨place, name, required, fragment⟩ := property
      cases fragment with
      | none => rfl
      | some fragment => cases fragment <;> rfl

variable {marker : Json}

/-- A property has a fixed value if the entry of its name fixes it. -/
theorem fixedValue?_eq_some_iff {path : Text} {required : Json} {entries : List (Text × Json)}
    {properties : List (Property Fragment)}
    (each : List.Forall₂ (ReadsProperty marker path required) entries properties)
    {key text : Text} :
    fixedValue? properties key = some text ↔
      ∃ value, lookup key entries = some value ∧ ∃ isOpen, Fixes marker isOpen value text := by
  rw [fixedValue?_eq_bind]
  induction each with
  | nil => simp [propertyNamed?, lookup]
  | cons first _ ih =>
      cases first with
      | @entry name value fragment isRequired read held =>
          by_cases same : name = key
          · simp [propertyNamed?, lookup, same, Schema.firstValue?_eq_some_iff read]
          · simp only [propertyNamed?, lookup, same, if_false] at ih ⊢
            rw [List.find?_cons_of_neg (by simpa using same)]
            exact ih

/-- The extension of a composition that was read is an object, if there is one. -/
theorem exists_inlineObject {entry : Text × Json} {definition : Definition}
    (read : ReadAs marker entry definition) {place : Place} {base extension : Option Fragment}
    (formed : definition.body = some (.composition place base extension)) :
    ∃ shape, (inlineObject extension).outcome = .ok shape := by
  cases read with
  | object read =>
      cases formed
      obtain ⟨shape, rfl, -⟩ := (Schema.readsBody_of_readBody read).extension
      cases shape with
      | none => exact ⟨none, rfl⟩
      | some shape => exact ⟨some shape, rfl⟩

/-- A composition has a fixed value if its inline object states one. -/
theorem fixedValue?_iff_states {entry : Text × Json} {definition : Definition}
    (read : ReadAs marker entry definition) {place : Place} {base extension : Option Fragment}
    {shape : Option (ObjectShape Fragment)}
    (formed : definition.body = some (.composition place base extension))
    (inline : (inlineObject extension).outcome = .ok shape) {key text : Text} :
    fixedValue? (ownProperties shape) key = some text ↔
      ∃ isOpen, States marker key isOpen entry.2 text := by
  cases read with
  | @object name members body read =>
      cases formed
      obtain ⟨own, rfl, each⟩ := (Schema.readsBody_of_readBody read).extension
      cases own with
      | none =>
          cases inline
          constructor
          · exact nofun
          · rintro ⟨isOpen, states⟩
            cases states with
            | inline among =>
                rw [List.forall₂_nil_right_iff.mp each] at among
                cases among
      | some own =>
          cases inline
          obtain ⟨object, others, ⟨path, shaped⟩, later, only⟩ :=
            List.forall₂_cons_right_iff.mp each
          cases later
          rw [ownProperties, Option.map_some, Option.getD_some,
            fixedValue?_eq_some_iff (Schema.readsProperties_of_readObject shaped)]
          constructor
          · rintro ⟨value, declared, isOpen, fixes⟩
            exact ⟨isOpen, .inline (only ▸ List.mem_singleton_self _) declared fixes⟩
          · rintro ⟨isOpen, states⟩
            cases states with
            | inline among declared fixes =>
                rw [only, List.mem_singleton] at among
                subst among
                exact ⟨_, declared, isOpen, fixes⟩

/-! ## Names of a model -/

/-- The names of the requests and events of a model are those that the entries state. -/
structure NamesOperations (marker : Json) (entries : List (Text × Json)) (model : Model) :
    Prop where
  commands : ∀ request ∈ model.requests, ∃ value isOpen, (request.request, value) ∈ entries ∧
    States marker "command" isOpen value request.command
  events : ∀ event ∈ model.events, ∃ value isOpen, (event.name, value) ∈ entries ∧
    States marker "event" isOpen value event.event

section

variable {config : Config} {document version : Json} {definitions : List Definition}

theorem namesOperations_of_analyze {model : Model}
    (read : (Schema.read marker document).outcome = .ok definitions)
    (analyzed : (analyze config definitions version).outcome = .ok model) :
    NamesOperations marker (entriesOf document) model := by
  obtain ⟨-, contributionOf, each, -, rfl⟩ := analyze_ok_iff.mp analyzed
  constructor
  · intro request member
    obtain ⟨definition, among, part, contributed, own⟩ := exists_contributed_of_mem each member
    obtain ⟨value, entry, entryRead⟩ := Schema.exists_entry_of_read read definition among
    cases contributed with
    | request formed based inline fixed answered argued returned =>
        rw [List.mem_singleton.mp own]
        obtain ⟨isOpen, states⟩ := (fixedValue?_iff_states entryRead formed inline).mp fixed
        exact ⟨value, isOpen, entry, states⟩
    | _ => cases own
  · intro event member
    obtain ⟨definition, among, part, contributed, own⟩ := exists_contributed_of_mem each member
    obtain ⟨value, entry, entryRead⟩ := Schema.exists_entry_of_read read definition among
    cases contributed with
    | event formed based inline fixed carried =>
        rw [List.mem_singleton.mp own]
        obtain ⟨isOpen, states⟩ := (fixedValue?_iff_states entryRead formed inline).mp fixed
        exact ⟨value, isOpen, entry, states⟩
    | _ => cases own

/-! ## Definitions without a name -/

/-- The key under which definitions with a base state the name of their operation. -/
inductive NamedUnder : (base key : Text) → Prop where
  | request : NamedUnder requestBase "command"
  | event : NamedUnder eventBase "event"

/-- What stops the analysis at a definition that does not state the name of its operation. -/
def withoutName (key owner : Text) : Failure :=
  .resolution ⟨.missingDiscriminator key, owner, ""⟩

theorem followed_of_resolvedBase {follow : Follow} {definition : Definition} {baseName : Text}
    (based : resolvedBase follow definition = some baseName) :
    ∃ place base extension, definition.body = some (.composition place base extension) ∧
      (followBase follow definition.name base).outcome = .ok (some baseName) := by
  unfold resolvedBase at based
  split at based
  · rename_i place base extension formed
    refine ⟨place, base, extension, formed, ?_⟩
    cases ended : (followBase follow definition.name base).outcome with
    | ok target =>
        rw [Traced.valueOr_of_ok none ended] at based
        rw [based]
    | error failure =>
        rw [Traced.valueOr, ended] at based
        cases based
  · cases based

section

variable {follow : Follow} {definition : Definition}

theorem contribution_withoutName {place : Place} {base extension : Option Fragment}
    {shape : Option (ObjectShape Fragment)} {baseName key : Text}
    (named : NamedUnder baseName key)
    (formed : definition.body = some (.composition place base extension))
    (based : (followBase follow definition.name base).outcome = .ok (some baseName))
    (inline : (inlineObject extension).outcome = .ok shape)
    (unstated : fixedValue? (ownProperties shape) key = none) :
    (contribution config follow definitions definition).outcome =
      .error (withoutName key definition.name) := by
  have own : ownProperties shape = (shape.map ObjectShape.properties).getD [] := rfl
  rw [own] at unstated
  rw [contribution, formed]
  simp only
  rw [Traced.bind_of_ok _ based]
  cases named with
  | request =>
      simp only [↓reduceIte, Traced.bind_of_ok _ inline, pairRequest, unstated]
      rfl
  | event =>
      have apart : some eventBase ≠ some requestBase := by decide
      simp only [if_neg apart, ↓reduceIte, Traced.bind_of_ok _ inline, pairEvent, unstated]
      rfl

/-- A definition that is refused stops the analysis. -/
theorem contributions_cons_of_refused {all rest : List Definition} {failure : Failure}
    (held : isKept config definition = true)
    (refused : (contribution config follow all definition).outcome = .error failure)
    (origins : Origins) :
    (contributions config follow all origins (definition :: rest)).outcome = .error failure := by
  rw [contributions_cons_of_kept (isKept_iff_held.mp held), Traced.bind_of_error _ refused]

/-- What stops the analysis at some definitions stops it behind those that are admitted. -/
theorem contributions_append_of_refused {all before rest : List Definition} {origins : Origins}
    {parts : List Contribution} {failure : Failure}
    (admitted : (contributions config follow all origins before).outcome = .ok parts)
    (refused : ∀ origins, (contributions config follow all origins rest).outcome =
      .error failure) :
    (contributions config follow all origins (before ++ rest)).outcome = .error failure := by
  induction before generalizing origins parts with
  | nil => exact refused origins
  | cons first before ih =>
      cases judged : (isSkipped config first).outcome with
      | error other =>
          rw [contributions, Traced.bind_of_error _ judged] at admitted
          cases admitted
      | ok skipped =>
          cases skipped with
          | true =>
              rw [contributions_cons_of_skipped judged] at admitted
              rw [List.cons_append, contributions_cons_of_skipped judged]
              exact ih admitted
          | false =>
              rw [contributions_cons_of_next judged, Traced.outcome_bind_eq_ok_iff] at admitted
              obtain ⟨next, ended, rest⟩ := admitted
              obtain ⟨others, later, -⟩ := Traced.outcome_map_eq_ok_iff.mp rest
              rw [List.cons_append, contributions_cons_of_next judged, Traced.bind_of_ok _ ended]
              exact Traced.outcome_map_eq_error_iff.mpr (ih later)

end

/-- The definitions of a document have the names of their operations, or stop the analysis. -/
structure FixesNames (config : Config) (document version : Json)
    (definitions : List Definition) : Prop where
  names : ∀ model, (resolve config document version).outcome = .ok model →
    NamesOperations config.openEnumMarker (entriesOf document) model
  /-- There is no model with a request or an event whose definition states no name, and if the
  definitions before are admitted, then this is what stops the analysis. -/
  refused : ∀ before definition after, definitions = before ++ definition :: after →
    isKept config definition = true → ∀ baseName key, NamedUnder baseName key →
    resolvedBase (followIn config definitions) definition = some baseName →
    (∀ value isOpen text, (definition.name, value) ∈ entriesOf document →
      ¬ States config.openEnumMarker key isOpen value text) →
    (∀ model, (resolve config document version).outcome ≠ .ok model) ∧
    (Admits config definitions before →
      (resolve config document version).outcome = .error (withoutName key definition.name))

theorem fixesNames_of_read (version : Json)
    (read : (Schema.read config.openEnumMarker document).outcome = .ok definitions) :
    FixesNames config document version definitions := by
  have whole : (resolve config document version).outcome =
      (analyze config definitions version).outcome := by
    rw [resolve, Traced.bind_of_ok _ read]
  constructor
  · intro model resolved
    exact namesOperations_of_analyze read (whole ▸ resolved)
  · intro before definition after split held baseName key named based unstated
    obtain ⟨place, base, extension, formed, followed⟩ := followed_of_resolvedBase based
    have among : definition ∈ definitions := by simp [split]
    obtain ⟨value, entry, entryRead⟩ := Schema.exists_entry_of_read read definition among
    obtain ⟨shape, inline⟩ := exists_inlineObject entryRead formed
    have missing : fixedValue? (ownProperties shape) key = none := by
      rw [Option.eq_none_iff_forall_ne_some]
      intro text fixed
      obtain ⟨isOpen, states⟩ := (fixedValue?_iff_states entryRead formed inline).mp fixed
      exact unstated value isOpen text entry states
    have refused : (contribution config (followIn config definitions) definitions
        definition).outcome = .error (withoutName key definition.name) :=
      contribution_withoutName named formed followed inline missing
    rw [whole]
    constructor
    · intro model analyzed
      obtain ⟨-, contributionOf, each, -, -⟩ := analyze_ok_iff.mp analyzed
      have contributed := each definition (List.mem_filter.mpr ⟨among, held⟩)
      rw [contribution_ok_iff.mpr contributed] at refused
      cases refused
    · intro admits
      obtain ⟨parts, admitted⟩ := Admits.iff_contributions.mp admits
      have stopped : (contributions config (followIn config definitions) definitions []
          (before ++ definition :: after)).outcome = .error (withoutName key definition.name) :=
        contributions_append_of_refused admitted (contributions_cons_of_refused held refused)
      rw [← split] at stopped
      rw [analyze, Traced.bind_of_error _ stopped]

end

/-- A document with a request whose command is described by some members, and its response. -/
def commandDocument (command : List (Text × Json)) : Json :=
  let link (base : Text) : Json := .object [("$ref", .text ("#/definitions/" ++ base))]
  let extending (base : Text) (own : List (Text × Json)) : Json :=
    .object [("allOf", .array [link base, .object [("properties", .object own)]])]
  .object [("definitions", .object
    [("Request", .object []), ("Response", .object []),
      ("PingRequest", extending "Request" [("command", .object command)]),
      ("PingResponse", extending "Response" [])])]

/-- What the definition of the request states is what the object of its command fixes. -/
theorem fixes_of_states_commandDocument {command : List (Text × Json)} {value : Json}
    {isOpen : Bool} {text : Text}
    (entry : (Text.ofString "PingRequest", value) ∈ entriesOf (commandDocument command))
    (states : States marker "command" isOpen value text) :
    Fixes marker isOpen (.object command) text := by
  simp +decide [entriesOf, commandDocument, field, lookup, Json.optionalMembers, Json.truthy,
    Json.members, Except.toOption] at entry
  rw [entry] at states
  cases states with
  | inline among declared fixes =>
    simp +decide [inlineObjects, lookup, Json.items, Except.toOption, Schema.inlineMembers?,
      Json.hasKey] at among
    rw [among] at declared
    simp +decide [declaredEntries, lookup] at declared
    rw [declared]
    exact fixes

/-- A plain type fixes nothing. -/
theorem not_fixes_plainType {isOpen : Bool} {text : Text} :
    ¬ Fixes (.text "_enum") isOpen (.object [("type", .text "string")]) text := by
  intro fixes
  cases fixes with
  | first formed listed =>
      have form := Schema.formOf_of_formed formed
      cases form

theorem fixesNames_commandDocument :
    let closed := commandDocument [("enum", .array [.text "ping", .text "pong"])]
    let missing := commandDocument [("type", .text "string")]
    (∃ model, (resolve {} closed .null).outcome = .ok model ∧
      model.requests.map Request.command = [Text.ofString "ping"] ∧
      NamesOperations (.text "_enum") (entriesOf closed) model) ∧
    ∀ model, (resolve {} missing .null).outcome ≠ .ok model := by
  intro closed missing
  constructor
  · have succeeds : (Schema.read (.text "_enum") closed).outcome.isOk = true := by decide +kernel
    have read := Traced.outcome_eq_valueOr [] succeeds
    have image : (resolve {} closed .null).outcome.toOption.map
        (fun model => model.requests.map Request.command) = some [Text.ofString "ping"] := by
      decide +kernel
    obtain ⟨model, resolved, commands⟩ := Traced.exists_ok_of_map image
    exact ⟨model, resolved, commands, (fixesNames_of_read .null read).names model resolved⟩
  · have succeeds : (Schema.read (.text "_enum") missing).outcome.isOk = true := by decide +kernel
    have read := Traced.outcome_eq_valueOr [] succeeds
    have request : ∃ definition ∈ (Schema.read (.text "_enum") missing).valueOr [],
        definition.name = Text.ofString "PingRequest" ∧ isKept {} definition = true ∧
        resolvedBase (followIn {} ((Schema.read (.text "_enum") missing).valueOr [])) definition =
          some requestBase := by
      decide +kernel
    obtain ⟨definition, among, name, held, based⟩ := request
    obtain ⟨before, after, split⟩ := List.append_of_mem among
    refine ((fixesNames_of_read .null read).refused before definition after split held _ _
      .request based ?_).1
    intro value isOpen text entry states
    rw [name] at entry
    exact not_fixes_plainType (fixes_of_states_commandDocument entry states)

/-- A command that is only suggested names a request as well. -/
theorem suggestedCommand_namesRequest :
    let document := commandDocument [("type", .text "string"), ("_enum", .array [.text "ping"])]
    ∃ model, (resolve {} document .null).outcome = .ok model ∧
      ∃ request ∈ model.requests, request.command = Text.ofString "ping" ∧
        ∀ value text, (request.request, value) ∈ entriesOf document →
          ¬ States (.text "_enum") "command" false value text := by
  intro document
  have image : (resolve {} document .null).outcome.toOption.map
      (fun model => model.requests.map fun request => (request.request, request.command)) =
        some [(Text.ofString "PingRequest", Text.ofString "ping")] := by
    decide +kernel
  obtain ⟨model, resolved, names⟩ := Traced.exists_ok_of_map image
  have among : (Text.ofString "PingRequest", Text.ofString "ping") ∈
      model.requests.map fun request => (request.request, request.command) := by
    rw [names]
    exact List.mem_singleton_self _
  obtain ⟨request, member, own⟩ := List.mem_map.mp among
  obtain ⟨name, command⟩ := Prod.mk.inj own
  refine ⟨model, resolved, request, member, command, fun value text entry states => ?_⟩
  rw [name] at entry
  cases fixes_of_states_commandDocument entry states with
  | first formed listed =>
      cases Schema.formOf_of_formed formed

end Resolve

end ProtocolBindings
