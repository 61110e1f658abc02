import ProtocolBindings.Generation
import ProtocolBindings.Proofs.Bindings.Layout
import ProtocolBindings.Proofs.Text.PhysicalLine

/-!
# Wire names in generated code

The name under which an operation is exchanged occurs in the lines of its method only:
as an identifier where the method is declared, and as it is in a comment, unless the two
are the same.  The comment holds the name exactly if no line ends inside of it.
-/

namespace ProtocolBindings.Bindings

open Model
open Text (SingleLine isLineEnd physicalLines)

/-! ## Identifiers -/

def WordsOnly (text : Text) : Prop := ∀ symbol ∈ text, symbol.is Text.isWord = true

theorem WordsOnly.append {first second : Text} (words : WordsOnly first)
    (more : WordsOnly second) : WordsOnly (first ++ second) :=
  List.forall_mem_append.mpr ⟨words, more⟩

theorem wordsOnly_underscore : WordsOnly "_" := by
  have word : (Symbol.char '_').is Text.isWord = true := by decide
  exact List.forall_mem_singleton.mpr word

theorem wordsOnly_wordCharacters (name : Text) : WordsOnly (wordCharacters name) := by
  intro symbol member
  obtain ⟨original, -, rfl⟩ := List.mem_map.mp member
  split
  · assumption
  · decide

theorem wordsOnly_startWithLetter {name : Text} (words : WordsOnly name) :
    WordsOnly (startWithLetter name) := by
  cases name with
  | nil => exact wordsOnly_underscore
  | cons first rest =>
      rw [startWithLetter]
      split
      · exact wordsOnly_underscore.append words
      · exact words

theorem wordsOnly_avoidMangling {name : Text} (words : WordsOnly name) :
    WordsOnly (avoidMangling name) := by
  rw [avoidMangling]
  split
  · refine WordsOnly.append (fun symbol member => ?_) wordsOnly_underscore
    exact words symbol ((List.dropWhile_sublist _).mem member)
  · exact words

/-- An identifier is made of word characters. -/
theorem wordsOnly_identifier (name : Text) : WordsOnly (identifier name) := by
  have words := wordsOnly_avoidMangling (wordsOnly_startWithLetter (wordsOnly_wordCharacters name))
  rw [identifier, Naming.escape]
  split
  · exact words.append wordsOnly_underscore
  · exact words

theorem WordsOnly.singleLine {text : Text} (words : WordsOnly text) : SingleLine text := by
  intro symbol member
  have word := words symbol member
  refine Bool.eq_false_iff.mpr fun ended => ?_
  rcases Text.eq_of_isLineEnd ended with rfl | rfl
  · exact absurd word (by decide)
  · exact absurd word (by decide)

/-! ## Lines of a method -/

def sentAsLine (name : Text) : Text := "    # Sent as \"" ++ name ++ "\""

/-- The lines of the method for a wire name: the method's signature follows its name, and
the rest follows the line of both. -/
def namedMethod (signature : Text) (rest : List Text) (name : Text) : List Text :=
  emptyLine :: (if identifier name = name then [] else [sentAsLine name]) ++
    ("    def " ++ identifier name ++ signature) :: rest

/-- What stands behind the name of a method in the line that declares it. -/
def signatureOf (arguments returns : Text) : Text :=
  "(self" ++ arguments ++ ") -> " ++ returns ++ ":"

/-- The name of a method occurs once in the line that declares it. -/
theorem methodHead_named (method : Method) :
    ∃ signature, ∀ name,
      methodHead { method with name := identifier name, wireName := name } =
        "    def " ++ identifier name ++ signature := by
  cases method.arguments with
  | none =>
      refine ⟨signatureOf "" method.returns, fun name => ?_⟩
      simp only [methodHead, signatureOf, List.append_assoc]
  | some annotated =>
      refine ⟨signatureOf (if annotated.isEmpty then "" else ", args: " ++ annotated)
        method.returns, fun name => ?_⟩
      simp only [methodHead, signatureOf, List.append_assoc]

/-- A method that can be written has the same lines under every wire name. -/
theorem methodLines_named {method : Method} {own : List Text}
    (written : methodLines method = .ok own) :
    ∃ signature rest, ∀ name,
      methodLines { method with name := identifier name, wireName := name } =
        .ok (namedMethod signature rest name) := by
  simp only [methodLines, bind_eq_ok_iff] at written
  obtain ⟨described, quoted, result, returned, -⟩ := written
  obtain ⟨signature, head⟩ := methodHead_named method
  refine ⟨signature, methodDocumentation described result ++ [stub], fun name => ?_⟩
  simp only [methodLines, bind_eq_ok_iff]
  refine ⟨described, quoted, result, returned, ?_⟩
  rw [head]
  simp [wireNameLines, sentAsLine, namedMethod, pure, Except.pure]

/-! ## Operations -/

def operationLines {α : Type} (method : α → Rendering Method) (operation : α) :
    Rendering (List Text) := do
  let method ← method operation
  Traced.ofExcept (methodLines method)

/-- The lines of an operation stand in the interface of the operations. -/
theorem exists_infix_of_interfaceOf {α : Type} {name : Json} {description : Text}
    {method : α → Rendering Method} {operations : List α} {lines : List Text}
    (rendered : (interfaceOf name description method operations).outcome = .ok lines) :
    ∀ operation ∈ operations, ∃ own,
      (operationLines method operation).outcome = .ok own ∧ own <:+: lines := by
  intro operation member
  obtain ⟨methods, declarations, ended, written, rfl⟩ :=
    (interfaceOf_ok_iff (List.ne_nil_of_mem member)).mp rendered
  obtain ⟨own, bound, paired⟩ :=
    exists_zip_of_forall₂ ((collects_methodsOf method).ok_iff.mp ended) operation member
  obtain ⟨part, drawn, within⟩ :=
    concatenates_methodsLines.exists_infix written own (List.of_mem_zip paired).2
  refine ⟨part, ?_, within.trans (List.infix_append _ _ _)⟩
  rw [operationLines, Traced.outcome_bind_eq_ok_iff]
  exact ⟨own, bound, drawn⟩

/-- A request has the same method under every wire name. -/
theorem requestMethod_named {request : Request} {method : Method}
    (bound : (requestMethod request).outcome = .ok method) (name : Text) :
    (requestMethod { request with command := name }).outcome =
      .ok { method with name := identifier name, wireName := name } := by
  cases result : request.returns with
  | none =>
      simp only [requestMethod, result, Traced.outcome_bind_eq_ok_iff, Traced.outcome_fail,
        reduceCtorEq, false_and, exists_false, and_false] at bound
  | some type =>
      simp only [requestMethod, result, Traced.outcome_bind_eq_ok_iff, Traced.outcome_pure,
        Except.ok.injEq] at bound ⊢
      obtain ⟨arguments, first, returns, second, rfl⟩ := bound
      exact ⟨arguments, first, returns, second, rfl⟩

/-- An event has the same method under every wire name. -/
theorem eventMethod_named {event : Event} {method : Method}
    (bound : (eventMethod event).outcome = .ok method) (name : Text) :
    (eventMethod { event with event := name }).outcome =
      .ok { method with name := identifier name, wireName := name } := by
  simp only [eventMethod, Traced.outcome_bind_eq_ok_iff, Traced.outcome_pure,
    Except.ok.injEq] at bound ⊢
  obtain ⟨arguments, first, rfl⟩ := bound
  exact ⟨arguments, first, rfl⟩

/-- An operation whose method depends on the wire name in no other way has the same lines
under every wire name. -/
theorem operationLines_named {α : Type} {method : α → Rendering Method} {operation : α}
    {named : Text → α} {own : List Text}
    (each : ∀ {bound}, (method operation).outcome = .ok bound → ∀ name,
      (method (named name)).outcome = .ok { bound with name := identifier name, wireName := name })
    (rendered : (operationLines method operation).outcome = .ok own) :
    ∃ signature rest, ∀ name,
      (operationLines method (named name)).outcome = .ok (namedMethod signature rest name) := by
  rw [operationLines, Traced.outcome_bind_eq_ok_iff] at rendered
  obtain ⟨bound, ended, written⟩ := rendered
  obtain ⟨signature, rest, lines⟩ := methodLines_named written
  refine ⟨signature, rest, fun name => ?_⟩
  rw [operationLines, Traced.outcome_bind_eq_ok_iff]
  exact ⟨_, each ended name, lines name⟩

/-! ## Code -/

/-- What code says about the wire name of an operation, whose lines are those of a block
that can be drawn for any name. -/
structure StatesWireName (code : Text) (block : Text → Rendering (List Text))
    (name : Text) : Prop where
  /-- The name stands where the method is declared, as an identifier, and in the comment. -/
  places : ∃ signature rest, HasLines code (namedMethod signature rest name) ∧
    ∀ other, (block other).outcome = .ok (namedMethod signature rest other)
  /-- A name without a comment is an identifier, and ends no line. -/
  plain : identifier name = name → SingleLine name
  /-- The comment, if there is one, is a line of the code unless the name ends a line. -/
  line : identifier name ≠ name → (sentAsLine name ∈ physicalLines code ↔ SingleLine name)

theorem singleLine_sentAsLine {name : Text} : SingleLine (sentAsLine name) ↔ SingleLine name := by
  have opening : SingleLine "    # Sent as \"" := by decide
  have closing : SingleLine "\"" := by decide
  rw [sentAsLine, Text.singleLine_append, Text.singleLine_append]
  constructor
  · rintro ⟨⟨-, single⟩, -⟩
    exact single
  · exact fun single => ⟨⟨opening, single⟩, closing⟩

/-- Lines of an operation that stand in the code state its wire name. -/
theorem statesWireName {α : Type} {method : α → Rendering Method} {operation : α}
    {named : Text → α} {own : List Text} {name code : Text}
    (each : ∀ {bound}, (method operation).outcome = .ok bound → ∀ name,
      (method (named name)).outcome = .ok { bound with name := identifier name, wireName := name })
    (self : named name = operation)
    (rendered : (operationLines method operation).outcome = .ok own)
    (stands : HasLines code own) :
    StatesWireName code (fun other => operationLines method (named other)) name := by
  obtain ⟨signature, rest, lines⟩ := operationLines_named each rendered
  have drawn := lines name
  rw [self, rendered] at drawn
  cases drawn
  have plain (same : identifier name = name) : SingleLine name := by
    rw [← same]
    exact (wordsOnly_identifier name).singleLine
  constructor
  case places => exact ⟨signature, rest, stands, lines⟩
  case plain => exact plain
  case line =>
    intro differs
    have present : sentAsLine name ≠ [] := fun empty =>
      absurd (List.append_eq_nil_iff.mp empty).2 (by decide)
    have inside : [sentAsLine name] <:+: namedMethod signature rest name := by
      rw [namedMethod, if_neg differs]
      exact ⟨[emptyLine], ("    def " ++ identifier name ++ signature) :: rest, rfl⟩
    constructor
    · intro member
      exact singleLine_sentAsLine.mp (Text.singleLine_of_mem_physicalLines code _ member)
    · intro single
      exact mem_physicalLines_of_hasLines (singleLine_sentAsLine.mpr single) present
        (stands.of_infix inside)

variable {config : Config} {model : Model} {comment code : Text}

/-- The code of a model states the wire names of its requests and events in their methods
only, where the identifier is made of word characters. -/
theorem wireNames_of_moduleText
    (rendered : (moduleText config model comment).outcome = .ok code) :
    (∀ request ∈ model.requests, WordsOnly (identifier request.command) ∧
      StatesWireName code
        (fun name => operationLines requestMethod { request with command := name })
        request.command) ∧
    ∀ event ∈ model.events, WordsOnly (identifier event.event) ∧
      StatesWireName code (fun name => operationLines eventMethod { event with event := name })
        event.event := by
  have parts := parts_of_moduleText rendered
  constructor
  · intro request member
    obtain ⟨lines, interface, stands⟩ := parts.server
    obtain ⟨own, drawn, within⟩ := exists_infix_of_interfaceOf interface request member
    have words : WordsOnly (identifier request.command) := wordsOnly_identifier _
    exact ⟨words, statesWireName requestMethod_named rfl drawn (stands.of_infix within)⟩
  · intro event member
    obtain ⟨lines, interface, stands⟩ := parts.client
    obtain ⟨own, drawn, within⟩ := exists_infix_of_interfaceOf interface event member
    have words : WordsOnly (identifier event.event) := wordsOnly_identifier _
    exact ⟨words, statesWireName eventMethod_named rfl drawn (stands.of_infix within)⟩

/-- A model with a request and an event that cannot have the names that are exchanged. -/
def continueModel : Model where
  requests := [{
    request := "ContinueRequest"
    response := "ContinueResponse"
    command := "continue"
    arguments := none
    returns := some .void
    description := .null
    responseDescription := .null }]
  events := [{
    name := "HotReloadEvent"
    event := "hot-reload"
    body := none
    description := .null }]

theorem wireNames_continueModel :
    ∃ code, (moduleText {} continueModel "").outcome = .ok code ∧
      sentAsLine "continue" ∈ physicalLines code ∧
      sentAsLine "hot-reload" ∈ physicalLines code := by
  have succeeds : (moduleText {} continueModel "").outcome.isOk = true := by decide +kernel
  have ended := Traced.outcome_eq_valueOr [] succeeds
  obtain ⟨requests, events⟩ := wireNames_of_moduleText ended
  obtain ⟨-, continued⟩ := requests _ List.mem_cons_self
  obtain ⟨-, reloaded⟩ := events _ List.mem_cons_self
  exact ⟨_, ended, (continued.line (by decide)).mpr (by decide),
    (reloaded.line (by decide)).mpr (by decide)⟩

/-- A document with one request, whose command has a line feed in it. -/
def pingDocument : Json :=
  let command : Json :=
    .object [("type", .text "string"), ("enum", .array [.text "ping\nimport os"])]
  let extending (base : Text) (own : List (Text × Json)) : Json :=
    .object [("allOf", .array
      [.object [("$ref", .text ("#/definitions/" ++ base))],
        .object [("type", .text "object"), ("properties", .object own)]])]
  .object [("definitions", .object
    [("Request", .object []), ("Response", .object []),
      ("PingRequest", extending "Request" [("command", command)]),
      ("PingResponse", extending "Response" [])])]

/-- The end of the command stands on a line of its own, which is no comment. -/
theorem pingDocument_command_escapes :
    let config : Config := { addGenerationComment := .bool false }
    ∃ code, (Generation.generate config pingDocument .null "").outcome = .ok code ∧
      sentAsLine "ping\nimport os" ∉ physicalLines code ∧
      Text.ofString "import os\"" ∈ physicalLines code := by
  intro config
  have lines : (Generation.generate config pingDocument .null "").outcome.toOption.map
      (fun code => decide (sentAsLine "ping\nimport os" ∉ physicalLines code ∧
        Text.ofString "import os\"" ∈ physicalLines code)) = some true := by
    decide +kernel
  obtain ⟨code, ended, stands⟩ := Traced.exists_ok_of_map lines
  exact ⟨code, ended, of_decide_eq_true stands⟩

end ProtocolBindings.Bindings
