import ProtocolBindings.Proofs.Bindings.Homonyms
import ProtocolBindings.Proofs.Bindings.Remarks
import ProtocolBindings.Proofs.Bindings.WireNames
import ProtocolBindings.Proofs.Generation

/-!
# Names of members

A property has a field in the class of its record, and a request or an event has a method in
its interface.  The names of the members, as they are read from the lines that declare them,
are the identifiers of the names that are exchanged, so that two members have the same name
exactly if these are alike.

Names are read and compared here as they are written.  The language takes a name in the normal
form of `Text.normal`, in which names beyond ASCII that are written differently may be the same.
-/

namespace ProtocolBindings.Bindings

open Model

/-! ## Words in lines -/

/-- The word that stands in a line behind an opening. -/
def wordBehind? (opening line : Text) : Option Text :=
  if opening.isPrefixOf line then
    let word := (line.drop opening.length).takeWhile (Symbol.is Text.isWord)
    if word.isEmpty then none else some word
  else none

/-- The name of the field that a line of a record declares, as it is written. -/
def fieldName? : Text → Option Text := wordBehind? "    "

/-- The name of the method that a line of an interface declares, as it is written. -/
def methodName? : Text → Option Text := wordBehind? "    def "

theorem wordBehind?_append {word : Text} (opening : Text) {symbol : Symbol} (rest : Text)
    (words : WordsOnly word) (present : word ≠ []) (ended : symbol.is Text.isWord = false) :
    wordBehind? opening (opening ++ (word ++ symbol :: rest)) = some word := by
  have starts : opening.isPrefixOf (opening ++ (word ++ symbol :: rest)) = true :=
    List.isPrefixOf_iff_prefix.mpr (List.prefix_append _ _)
  have read : (word ++ symbol :: rest).takeWhile (Symbol.is Text.isWord) = word := by
    rw [List.takeWhile_append_of_pos words, List.takeWhile_cons_of_neg (by simp [ended]),
      List.append_nil]
  rw [wordBehind?, if_pos starts, List.drop_left, read]
  simp [present]

/-- Where each part has one name in its block, the blocks have the names of the parts. -/
theorem filterMap_flatten_of_forall₂ {α β γ : Type} {read : β → Option γ} {name : α → γ}
    {parts : List α} {blocks : List (List β)}
    (each : List.Forall₂ (fun part own => own.filterMap read = [name part]) parts blocks) :
    blocks.flatten.filterMap read = parts.map name := by
  induction each with
  | nil => rfl
  | cons first _ ih =>
      rw [List.flatten_cons, List.filterMap_append, first, ih]
      rfl

/-- Blocks that are drawn from values for the parts are related to the parts. -/
theorem forall₂_of_zip {α β γ : Type} {value : α → β → Prop} {drawn : α × β → γ → Prop}
    {related : α → γ → Prop} {parts : List α} {values : List β} {blocks : List γ}
    (joined : ∀ part own block, value part own → drawn (part, own) block → related part block)
    (each : List.Forall₂ value parts values)
    (written : List.Forall₂ drawn (parts.zip values) blocks) :
    List.Forall₂ related parts blocks := by
  induction each generalizing blocks with
  | nil =>
      cases written
      exact .nil
  | cons own _ ih =>
      cases written with
      | cons first later => exact .cons (joined _ _ _ own first) (ih later)

/-! ## Fields -/

theorem fieldName?_commentLine (line : Text) : fieldName? (commentLine "    " line) = none := by
  rw [commentLine]
  split
  · rfl
  · rfl

theorem fieldName?_comments {description : Json} {remarks : List Text}
    (described : comments "    " description = .ok remarks) :
    remarks.filterMap fieldName? = [] := by
  obtain ⟨content, -, written⟩ := bind_eq_ok_iff.mp described
  cases written
  rw [List.filterMap_map, List.filterMap_eq_nil_iff]
  exact fun line _ => fieldName?_commentLine line

theorem fieldName?_suggestionLines (property : RecordProperty) :
    (suggestionLines property).filterMap fieldName? = [] := by
  rw [suggestionLines]
  split
  · split
    · rfl
    · rfl
  · rfl

theorem name_of_fieldOf {property : RecordProperty} {field : Field}
    (bound : (fieldOf property).outcome = .ok field) : field.name = identifier property.name := by
  obtain ⟨annotated, -, rfl⟩ := fieldOf_ok_iff.mp bound
  rfl

theorem Field.exists_line (field : Field) :
    ∃ rest, field.line = Text.ofString "    " ++ (field.name ++ .char ':' :: rest) := by
  rw [Field.line]
  simp only [List.append_assoc]
  exact ⟨_, rfl⟩

/-- The name of a field is read from its line. -/
theorem fieldName?_line {property : RecordProperty} {field : Field}
    (bound : (fieldOf property).outcome = .ok field) :
    fieldName? field.line = some (identifier property.name) := by
  obtain ⟨rest, line⟩ := field.exists_line
  rw [line, name_of_fieldOf bound]
  exact wordBehind?_append _ rest (wordsOnly_identifier _) (identifier_ne_nil _) (by decide)

/-- The lines of a field declare it and nothing else. -/
theorem fieldNames_ownFieldLines {property : RecordProperty} {field : Field} {own : List Text}
    (bound : (fieldOf property).outcome = .ok field)
    (written : ownFieldLines (property, field) = .ok own) :
    own.filterMap fieldName? = [identifier property.name] := by
  obtain ⟨remarks, described, joined⟩ := bind_eq_ok_iff.mp written
  cases joined
  simp [fieldName?_comments described, fieldName?_suggestionLines, fieldName?_line bound]

/-- The lines in the class of a record that declare its fields. -/
structure DeclaresFields (record : Record) (lines declarations : List Text) : Prop where
  body : ∃ described, quotedLines "    " record.description = .ok described ∧
    lines = linesAbove record described ++ declarations ++ linesBelow record described
  named : declarations.filterMap fieldName? =
    record.properties.map fun property => identifier property.name
  distinct : (declarations.filterMap fieldName?).Nodup ↔
    record.properties.Pairwise fun first second => ¬ Alike first.name second.name

/-- The class of a record has one field for each property.  The names of the fields are
written differently exactly if no two properties are alike. -/
theorem exists_declaresFields {record : Record} {lines : List Text}
    (rendered : (recordClass record).outcome = .ok lines) :
    ∃ declarations, DeclaresFields record lines declarations := by
  obtain ⟨fields, described, declarations, bound, quoted, written, rfl⟩ :=
    recordClass_ok_iff.mp rendered
  obtain ⟨blocks, drawn, rfl⟩ := concatenates_fieldLines.ok_iff.mp written
  have each := forall₂_of_zip (fun _ _ _ => fieldNames_ownFieldLines)
    (collects_fieldsOf.ok_iff.mp bound) drawn
  have named := filterMap_flatten_of_forall₂ each
  refine ⟨_, ⟨described, quoted, rfl⟩, named, ?_⟩
  rw [named]
  exact nodup_identifiers_iff

/-- A record none of whose properties can give its name to a field. -/
def strokeRecord : Record :=
  let property (name : Text) : RecordProperty := ⟨name, .scalar .number false, true, .null⟩
  { name := "Stroke"
    base := none
    properties := [property "line-width", property "2d", property "class", property ""]
    description := .null
    synthesized := false }

theorem declaresFields_strokeRecord :
    ∃ lines declarations, (recordClass strokeRecord).outcome = .ok lines ∧
      DeclaresFields strokeRecord lines declarations ∧
      declarations.filterMap fieldName? =
        [Text.ofString "line_width", "_2d", "class_", "_"] := by
  have succeeds : (recordClass strokeRecord).outcome.isOk = true := by decide +kernel
  have ended := Traced.outcome_eq_valueOr [] succeeds
  obtain ⟨declarations, declares⟩ := exists_declaresFields ended
  refine ⟨_, declarations, ended, declares, declares.named.trans ?_⟩
  decide +kernel

/-- A document with one record, whose properties have different names. -/
def strokeDocument : Json :=
  let property (type : Text) : Json := .object [("type", .text type)]
  .object [("definitions", .object [("Stroke", .object [("properties", .object
    [("line-width", property "string"), ("line_width", property "integer")])])])]

/-- The field of the second property has the name of the first one's. -/
theorem strokeDocument_fields_sameName :
    let config : Config := { addGenerationComment := .bool false }
    let first : Text :=
      "    line_width: str | None = field(default=None, metadata=config(field_name=\"line-width\"))"
    let second : Text := "    line_width: int | None = None"
    ∃ code, (Generation.generate config strokeDocument .null "").outcome = .ok code ∧
      (first ∈ Text.physicalLines code ∧ second ∈ Text.physicalLines code) ∧
      fieldName? first = fieldName? second := by
  intro config first second
  have lines : (Generation.generate config strokeDocument .null "").outcome.toOption.map
      (fun code => decide (first ∈ Text.physicalLines code ∧ second ∈ Text.physicalLines code)) =
        some true := by
    decide +kernel
  obtain ⟨code, ended, stands⟩ := Traced.exists_ok_of_map lines
  exact ⟨code, ended, of_decide_eq_true stands, by decide +kernel⟩

/-! ## Methods -/

theorem methodName?_quotedLines {indentation : Text} {description : Json} {lines : List Text}
    (apart : ∀ line, methodName? (indentation ++ line) = none)
    (quoted : quotedLines indentation description = .ok lines) :
    lines.filterMap methodName? = [] := by
  obtain ⟨content, -, written⟩ := bind_eq_ok_iff.mp quoted
  cases written
  rw [List.filterMap_map, List.filterMap_eq_nil_iff]
  intro line _
  rw [Function.comp_apply, indented]
  split
  · rfl
  · exact apart _

theorem methodName?_methodDocumentation {described result : List Text}
    (own : described.filterMap methodName? = []) (returned : result.filterMap methodName? = []) :
    (methodDocumentation described result).filterMap methodName? = [] := by
  have quotes : methodName? ("        " ++ tripleQuote) = none := rfl
  have heading : methodName? returnsHeading = none := rfl
  have empty : methodName? emptyLine = none := rfl
  rw [methodDocumentation]
  split
  · rfl
  · split <;> split <;> simp [own, returned, quotes, heading, empty]

theorem methodName?_wireNameLines (method : Method) :
    (wireNameLines method).filterMap methodName? = [] := by
  rw [wireNameLines]
  split
  · rfl
  · rfl

theorem exists_methodHead (method : Method) :
    ∃ rest, methodHead method = Text.ofString "    def " ++ (method.name ++ .char '(' :: rest) := by
  rw [methodHead]
  simp only [List.append_assoc]
  exact ⟨_, rfl⟩

/-- The lines of a method declare it and nothing else. -/
theorem methodNames_methodLines {method : Method} {own : List Text} {name : Text}
    (named : method.name = identifier name) (written : methodLines method = .ok own) :
    own.filterMap methodName? = [identifier name] := by
  simp only [methodLines, bind_eq_ok_iff] at written
  obtain ⟨described, quoted, result, returned, joined⟩ := written
  cases joined
  have documentation := methodName?_methodDocumentation
    (methodName?_quotedLines (fun _ => rfl) quoted)
    (methodName?_quotedLines (fun _ => rfl) returned)
  obtain ⟨rest, line⟩ := exists_methodHead method
  have declared : methodName? (methodHead method) = some (identifier name) := by
    rw [line, named]
    exact wordBehind?_append _ rest (wordsOnly_identifier _) (identifier_ne_nil _) (by decide)
  have empty : methodName? emptyLine = none := rfl
  have ended : methodName? stub = none := rfl
  simp [methodName?_wireNameLines, documentation, declared, empty, ended]

theorem name_of_requestMethod {request : Request} {method : Method}
    (bound : (requestMethod request).outcome = .ok method) :
    method.name = identifier request.command := by
  have named := requestMethod_named bound request.command
  rw [bound] at named
  exact congrArg Method.name (Except.ok.inj named)

theorem name_of_eventMethod {event : Event} {method : Method}
    (bound : (eventMethod event).outcome = .ok method) :
    method.name = identifier event.event := by
  have named := eventMethod_named bound event.event
  rw [bound] at named
  exact congrArg Method.name (Except.ok.inj named)

/-- An interface in the code, with the lines that declare the methods for some names. -/
structure OffersMethods (code : Text) (interface : Json) (names declarations : List Text) :
    Prop where
  body : ∃ description,
    HasLines code (spaced (interfaceAbove interface description ++ declarations))
  named : declarations.filterMap methodName? = names.map identifier
  distinct : (declarations.filterMap methodName?).Nodup ↔
    names.Pairwise fun first second => ¬ Alike first second

/-- An interface has one method for each operation. -/
theorem exists_offersMethods {α : Type} {interface : Json} {description code : Text}
    {method : α → Rendering Method} {operations : List α} {lines : List Text} {name : α → Text}
    (each : ∀ operation own, (method operation).outcome = .ok own →
      own.name = identifier (name operation))
    (present : operations ≠ [])
    (rendered : (interfaceOf interface description method operations).outcome = .ok lines)
    (stands : HasLines code lines) :
    ∃ declarations, OffersMethods code interface (operations.map name) declarations := by
  obtain ⟨methods, declarations, ended, written, rfl⟩ := (interfaceOf_ok_iff present).mp rendered
  obtain ⟨blocks, drawn, rfl⟩ := concatenates_methodsLines.ok_iff.mp written
  have bound := (collects_methodsOf method).ok_iff.mp ended
  rw [← List.map_snd_zip (Nat.le_of_eq bound.length_eq.symm), List.forall₂_map_left_iff] at drawn
  have named := filterMap_flatten_of_forall₂ (forall₂_of_zip
    (fun operation own _ ended => methodNames_methodLines (each operation own ended)) bound drawn)
  refine ⟨blocks.flatten, ⟨description, stands⟩, ?_, ?_⟩
  · rw [named, List.map_map]
    rfl
  · rw [named, List.pairwise_map]
    exact nodup_identifiers_iff

/-- The code of a document has one method for each request and for each event.  The names of
the methods of an interface are written differently exactly if no two of the names that are
exchanged are alike. -/
theorem exists_offersMethods_of_generate {config : Config} {document version : Json}
    {commandLine code : Text}
    (generated : (Generation.generate config document version commandLine).outcome = .ok code) :
    ∃ model, (Resolve.resolve config document version).outcome = .ok model ∧
      (model.requests ≠ [] → ∃ declarations, OffersMethods code config.serverInterfaceName
        (model.requests.map Request.command) declarations) ∧
      (model.events ≠ [] → ∃ declarations, OffersMethods code config.clientInterfaceName
        (model.events.map Event.event) declarations) := by
  obtain ⟨model, resolved, rendered⟩ := Generation.exists_model_of_generate generated
  have parts := parts_of_moduleText rendered
  refine ⟨model, resolved, ?_, ?_⟩
  · intro present
    obtain ⟨lines, interface, stands⟩ := parts.server
    exact exists_offersMethods (fun _ _ => name_of_requestMethod) present interface stands
  · intro present
    obtain ⟨lines, interface, stands⟩ := parts.client
    exact exists_offersMethods (fun _ _ => name_of_eventMethod) present interface stands

/-- A document with an event and two requests, of which the second one has a given command. -/
def stepDocument (command : Text) : Json :=
  let extending (base member name : Text) : Json :=
    .object [("allOf", .array
      [.object [("$ref", .text ("#/definitions/" ++ base))],
        .object [("properties", .object
          [(member, .object [("enum", .array [.text name])])])]])]
  let responding : Json := extending "Response" "message" "done"
  .object [("definitions", .object
    [("Request", .object []), ("Response", .object []), ("Event", .object []),
      ("StepInRequest", extending "Request" "command" "step-in"),
      ("StepInResponse", responding),
      ("StepRequest", extending "Request" "command" command),
      ("StepResponse", responding),
      ("StoppedEvent", extending "Event" "event" "class")])]

theorem offersMethods_stepDocument :
    let config : Config := { addGenerationComment := .bool false }
    ∃ code server client,
      (Generation.generate config (stepDocument "step_") .null "").outcome = .ok code ∧
      OffersMethods code config.serverInterfaceName ["step-in", "step_"] server ∧
      server.filterMap methodName? = [Text.ofString "step_in", "step_"] ∧
      OffersMethods code config.clientInterfaceName ["class"] client ∧
      client.filterMap methodName? = [Text.ofString "class_"] := by
  intro config
  have names : (Resolve.resolve config (stepDocument "step_") .null).outcome.toOption.map
      (fun model => decide
        (model.requests.map Request.command = [Text.ofString "step-in", "step_"] ∧
          model.events.map Event.event = [Text.ofString "class"])) = some true := by
    decide +kernel
  have succeeds :
      (Generation.generate config (stepDocument "step_") .null "").outcome.isOk = true := by
    decide +kernel
  have ended := Traced.outcome_eq_valueOr [] succeeds
  obtain ⟨model, resolved, served, announced⟩ := exists_offersMethods_of_generate ended
  obtain ⟨same, again, named⟩ := Traced.exists_ok_of_map names
  rw [resolved] at again
  cases again
  obtain ⟨commands, events⟩ := of_decide_eq_true named
  obtain ⟨server, requests⟩ := served fun empty => by simp [empty] at commands
  obtain ⟨client, announcements⟩ := announced fun empty => by simp [empty] at events
  rw [commands] at requests
  rw [events] at announcements
  refine ⟨_, server, client, ended, requests, requests.named.trans ?_, announcements,
    announcements.named.trans ?_⟩
  · decide +kernel
  · decide +kernel

/-- The method of the second request has the name of the first one's. -/
theorem stepDocument_methods_sameName :
    let config : Config := { addGenerationComment := .bool false }
    let declaration : Text := "    def step_in(self) -> None:"
    ∃ code, (Generation.generate config (stepDocument "step_in") .null "").outcome = .ok code ∧
      (Text.physicalLines code).count declaration = 2 := by
  intro config declaration
  have lines :
      (Generation.generate config (stepDocument "step_in") .null "").outcome.toOption.map
        (fun code => (Text.physicalLines code).count declaration) = some 2 := by
    decide +kernel
  exact Traced.exists_ok_of_map lines

end ProtocolBindings.Bindings
