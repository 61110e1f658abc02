import Mathlib.Data.List.Forall2
import ProtocolBindings.Proofs.Bindings.Rendering
import ProtocolBindings.Proofs.Failure
import ProtocolBindings.Proofs.Text.PhysicalLine

/-!
# Layout of generated code

Where the lines of the parts of a model stand in the generated code.  The code ends
with one line feed, so that empty lines at its end are left out.
-/

namespace ProtocolBindings.Bindings

open Model
open Text (SingleLine physicalLines)

/-! ## Whole lines -/

theorem joinLines_append (first second : List Text) :
    joinLines (first ++ second) = joinLines first ++ joinLines second :=
  List.flatMap_append

/-- A text ends with its last symbols of a kind. -/
theorem dropEndWhile_append_replicate (last : Symbol) (text : Text) :
    ∃ count, text = Text.dropEndWhile ([last].contains ·) text ++ List.replicate count last := by
  have run : text.reverse.takeWhile ([last].contains ·) =
      List.replicate (text.reverse.takeWhile ([last].contains ·)).length last := by
    rw [List.eq_replicate_iff]
    refine ⟨rfl, fun symbol member => ?_⟩
    have passed := List.all_eq_true.mp List.all_takeWhile symbol member
    simpa using passed
  refine ⟨(text.reverse.takeWhile ([last].contains ·)).length, ?_⟩
  rw [Text.dropEndWhile, ← List.reverse_replicate, ← run, ← List.reverse_append,
    List.takeWhile_append_dropWhile, List.reverse_reverse]

theorem dropEndWhile_concat {test : Symbol → Bool} {last : Symbol} (passes : test last = true)
    (text : Text) : Text.dropEndWhile test (text ++ [last]) = Text.dropEndWhile test text := by
  rw [Text.dropEndWhile, List.reverse_concat, List.dropWhile_cons_of_pos passes,
    Text.dropEndWhile]

/-- A text of whole lines is the same text with one line feed at its end, but for the
empty lines at the end. -/
theorem joinLines_eq_endOnce {lines : List Text} (present : lines ≠ []) :
    ∃ blank, joinLines lines = endOnce (joinLines lines) ++ List.replicate blank (.char '\n') := by
  obtain ⟨text, ended⟩ : ∃ text, joinLines lines = text ++ [.char '\n'] := by
    refine ⟨joinLines lines.dropLast ++ lines.getLast present, ?_⟩
    have split := joinLines_append lines.dropLast [lines.getLast present]
    rw [List.dropLast_concat_getLast] at split
    rw [split, List.append_assoc]
    exact congrArg (joinLines lines.dropLast ++ ·) (List.append_nil _)
  obtain ⟨count, split⟩ := dropEndWhile_append_replicate (.char '\n') text
  have kept : endOnce (text ++ [.char '\n']) =
      Text.dropEndWhile (lineEnd.contains ·) text ++ lineEnd := by
    rw [endOnce, dropEndWhile_concat (by decide)]
  refine ⟨count, ?_⟩
  rw [ended, kept, List.append_assoc]
  calc text ++ [.char '\n']
      = Text.dropEndWhile (lineEnd.contains ·) text ++
          (List.replicate count (.char '\n') ++ [.char '\n']) := by
        rw [← List.append_assoc]
        exact congrArg (· ++ [.char '\n']) split
    _ = Text.dropEndWhile (lineEnd.contains ·) text ++
          (lineEnd ++ List.replicate count (.char '\n')) := by
        rw [← List.replicate_succ', List.replicate_succ]
        rfl

/-- Lines that stand one after another in code, whose end may leave out empty ones. -/
def HasLines (code : Text) (lines : List Text) : Prop :=
  ∃ before after blank,
    joinLines (before ++ lines ++ after) = code ++ List.replicate blank (.char '\n')

theorem HasLines.of_infix {code : Text} {lines part : List Text} (stands : HasLines code lines)
    (within : part <:+: lines) : HasLines code part := by
  obtain ⟨before, after, blank, written⟩ := stands
  obtain ⟨first, last, rfl⟩ := within
  refine ⟨before ++ first, last ++ after, blank, ?_⟩
  rw [← written]
  simp only [List.append_assoc]

/-! ## Physical lines -/

/-- What stands behind whole lines does not change their physical lines. -/
theorem physicalLines_joinLines_append (lines : List Text) (rest : Text) :
    physicalLines (joinLines lines ++ rest) =
      lines.flatMap (fun line => physicalLines (line ++ [.char '\n'])) ++ physicalLines rest := by
  induction lines with
  | nil => rfl
  | cons line lines ih =>
      have split : joinLines (line :: lines) ++ rest =
          line ++ .char '\n' :: (joinLines lines ++ rest) := by
        simp [joinLines, lineEnd, Text.ofString, Text.ofCharacters]
      rw [split, Text.physicalLines_append_lineFeed, ih, List.flatMap_cons, List.append_assoc]

theorem physicalLines_joinLines (lines : List Text) :
    physicalLines (joinLines lines) =
      lines.flatMap fun line => physicalLines (line ++ [.char '\n']) := by
  have cut := physicalLines_joinLines_append lines []
  rw [List.append_nil] at cut
  rw [cut]
  exact List.append_nil _

theorem physicalLines_singleLine {line : Text} (single : SingleLine line) :
    physicalLines (line ++ [.char '\n']) = [line] :=
  Text.physicalLines_of_singleLine single []

/-- Empty lines at the end of a text add no other line to it. -/
theorem mem_physicalLines_of_blank {text line : Text} {blank : Nat} (present : line ≠ [])
    (stands : line ∈ physicalLines (text ++ List.replicate blank (.char '\n'))) :
    line ∈ physicalLines text := by
  induction blank with
  | zero => simpa using stands
  | succ blank ih =>
      apply ih
      rw [List.replicate_succ', ← List.append_assoc] at stands
      rcases Text.physicalLines_concat_lineFeed (text ++ List.replicate blank (.char '\n')) with
        same | further
      · rwa [same] at stands
      · rw [further] at stands
        rcases List.mem_append.mp stands with before | last
        · exact before
        · exact absurd (List.mem_singleton.mp last) present

/-- A line of the code is one of its physical lines, unless a line ends inside of it. -/
theorem mem_physicalLines_of_hasLines {code line : Text} (single : SingleLine line)
    (present : line ≠ []) (stands : HasLines code [line]) : line ∈ physicalLines code := by
  obtain ⟨before, after, blank, written⟩ := stands
  have among : line ∈ physicalLines (code ++ List.replicate blank (.char '\n')) := by
    rw [← written, physicalLines_joinLines, List.mem_flatMap]
    refine ⟨line, by simp, ?_⟩
    rw [physicalLines_singleLine single]
    exact List.mem_singleton_self line
  exact mem_physicalLines_of_blank present among

/-! ## The lines of a model -/

variable {config : Config} {model : Model} {comment code : Text}

theorem moduleText_ok_iff :
    (moduleText config model comment).outcome = .ok code ↔
      ∃ lines, (modelLines config model).outcome = .ok lines ∧
        code = endOnce (joinLines
          (headLines comment (modelLines config model).trail model.version ++ lines)) := by
  rw [moduleText]
  cases (modelLines config model).outcome with
  | ok lines => simp [Except.map, eq_comm]
  | error misuse => simp [Except.map]

/-- The code is its lines, but for the empty ones at its end. -/
theorem joinLines_of_moduleText (rendered : (moduleText config model comment).outcome = .ok code) :
    ∃ lines blank, (modelLines config model).outcome = .ok lines ∧
      joinLines (headLines comment (modelLines config model).trail model.version ++ lines) =
        code ++ List.replicate blank (.char '\n') := by
  obtain ⟨lines, ended, rfl⟩ := moduleText_ok_iff.mp rendered
  have present : headLines comment (modelLines config model).trail model.version ++ lines ≠
      [] := by simp [headLines]
  obtain ⟨blank, written⟩ := joinLines_eq_endOnce present
  exact ⟨lines, blank, ended, written⟩

theorem hasLines_of_moduleText (rendered : (moduleText config model comment).outcome = .ok code) :
    ∃ lines, (modelLines config model).outcome = .ok lines ∧
      HasLines code
        (headLines comment (modelLines config model).trail model.version ++ lines) := by
  obtain ⟨lines, blank, ended, written⟩ := joinLines_of_moduleText rendered
  exact ⟨lines, ended, [], [], blank, by rw [List.nil_append, List.append_nil, written]⟩

theorem modelLines_ok_iff {lines : List Text} :
    (modelLines config model).outcome = .ok lines ↔
      ∃ enumTypes records server client,
        (classesOf enumClass (orderEnums model.enumTypes)).outcome = .ok enumTypes ∧
        (classesOf recordClass (orderRecords model.records)).outcome = .ok records ∧
        (interfaceOf config.serverInterfaceName "Requests handled by a debug adapter."
          requestMethod model.requests).outcome = .ok server ∧
        (interfaceOf config.clientInterfaceName "Events sent by a debug adapter to its client."
          eventMethod model.events).outcome = .ok client ∧
        enumTypes ++ records ++ server ++ client = lines := by
  simp only [modelLines, Traced.outcome_bind_eq_ok_iff, Traced.outcome_note, Traced.outcome_pure,
    Except.ok.injEq]
  constructor
  · rintro ⟨_, _, enumTypes, first, records, second, server, third, client, fourth, joined⟩
    exact ⟨enumTypes, records, server, client, first, second, third, fourth, joined⟩
  · rintro ⟨enumTypes, records, server, client, first, second, third, fourth, joined⟩
    exact ⟨(), trivial, enumTypes, first, records, second, server, third, client, fourth, joined⟩

/-- The parts of a model in its code. -/
structure Parts (config : Config) (model : Model) (comment code : Text) : Prop where
  head : HasLines code (headLines comment (modelLines config model).trail model.version)
  enumTypes : ∃ lines, (classesOf enumClass (orderEnums model.enumTypes)).outcome = .ok lines ∧
    HasLines code lines
  records : ∃ lines, (classesOf recordClass (orderRecords model.records)).outcome = .ok lines ∧
    HasLines code lines
  server : ∃ lines, (interfaceOf config.serverInterfaceName
    "Requests handled by a debug adapter." requestMethod model.requests).outcome = .ok lines ∧
    HasLines code lines
  client : ∃ lines, (interfaceOf config.clientInterfaceName
    "Events sent by a debug adapter to its client." eventMethod model.events).outcome = .ok lines ∧
    HasLines code lines

/-- Every part of a model stands in its code. -/
theorem parts_of_moduleText (rendered : (moduleText config model comment).outcome = .ok code) :
    Parts config model comment code := by
  obtain ⟨lines, ended, stands⟩ := hasLines_of_moduleText rendered
  obtain ⟨enumTypes, records, server, client, enumClasses, recordClasses, requests, events, rfl⟩ :=
    modelLines_ok_iff.mp ended
  have body := stands.of_infix (List.suffix_append _ _).isInfix
  have front := body.of_infix (List.prefix_append _ client).isInfix
  constructor
  case head => exact stands.of_infix (List.prefix_append _ _).isInfix
  case enumTypes =>
    rw [List.append_assoc] at front
    exact ⟨enumTypes, enumClasses, front.of_infix (List.prefix_append _ _).isInfix⟩
  case records => exact ⟨records, recordClasses, front.of_infix (List.infix_append _ _ _)⟩
  case server => exact ⟨server, requests, front.of_infix (List.suffix_append _ _).isInfix⟩
  case client => exact ⟨client, events, body.of_infix (List.suffix_append _ _).isInfix⟩

/-- The block of a part stands among the blocks of all parts. -/
theorem exists_infix_of_forall₂ {α β : Type} {isBlock : α → List β → Prop} {parts : List α}
    {blocks : List (List β)} (each : List.Forall₂ isBlock parts blocks)
    (layout : List β → List β) :
    ∀ part ∈ parts, ∃ own, isBlock part own ∧ layout own <:+: blocks.flatMap layout := by
  induction each with
  | nil => exact nofun
  | @cons part own parts blocks first _ ih =>
      refine List.forall_mem_cons.mpr ⟨⟨own, first, ?_⟩, fun other member => ?_⟩
      · exact (List.prefix_append _ _).isInfix
      · obtain ⟨found, related, within⟩ := ih other member
        exact ⟨found, related, within.trans (List.suffix_append _ _).isInfix⟩

/-- Each part stands beside one of the values that are related to the parts. -/
theorem exists_zip_of_forall₂ {α β : Type} {related : α → β → Prop} {parts : List α}
    {values : List β} (each : List.Forall₂ related parts values) :
    ∀ part ∈ parts, ∃ value, related part value ∧ (part, value) ∈ parts.zip values := by
  induction each with
  | nil => exact nofun
  | @cons part value parts values first _ ih =>
      refine List.forall_mem_cons.mpr ⟨⟨value, first, List.mem_cons_self⟩, fun other member => ?_⟩
      obtain ⟨found, holds, paired⟩ := ih other member
      exact ⟨found, holds, List.mem_cons_of_mem _ paired⟩

/-- The classes of some parts are those of each, one after another. -/
theorem classesOf_ok_iff {α : Type} {render : α → Rendering (List Text)} {parts : List α}
    {lines : List Text} :
    (classesOf render parts).outcome = .ok lines ↔
      ∃ classes, List.Forall₂ (fun part own => (render part).outcome = .ok own) parts classes ∧
        lines = classes.flatMap spaced := by
  induction parts generalizing lines with
  | nil =>
      simp only [classesOf, Traced.outcome_pure, Except.ok.injEq, List.forall₂_nil_left_iff,
        exists_eq_left, List.flatMap_nil]
      exact eq_comm
  | cons part parts ih =>
      simp only [classesOf, Traced.outcome_bind_eq_ok_iff, Traced.outcome_pure,
        Except.ok.injEq, ih, List.forall₂_cons_left_iff]
      constructor
      · rintro ⟨first, own, _, ⟨classes, later, rfl⟩, rfl⟩
        exact ⟨_, ⟨first, classes, own, later, rfl⟩, rfl⟩
      · rintro ⟨_, ⟨first, classes, own, later, rfl⟩, rfl⟩
        exact ⟨first, own, _, ⟨classes, later, rfl⟩, rfl⟩

theorem exists_infix_of_classesOf {α : Type} {render : α → Rendering (List Text)}
    {parts : List α} {lines : List Text}
    (rendered : (classesOf render parts).outcome = .ok lines) :
    ∀ part ∈ parts, ∃ own, (render part).outcome = .ok own ∧ own <:+: lines := by
  obtain ⟨classes, each, rfl⟩ := classesOf_ok_iff.mp rendered
  intro part member
  obtain ⟨own, drawn, within⟩ := exists_infix_of_forall₂ each spaced part member
  exact ⟨own, drawn, (List.prefix_append _ _).isInfix.trans within⟩

/-! ## Lines of parts -/

/-- The lines of some parts are those of each, one part after another. -/
structure Concatenates {α : Type} (one : α → Except Misuse (List Text))
    (all : List α → Except Misuse (List Text)) : Prop where
  nil : all [] = .ok []
  cons : ∀ part parts, all (part :: parts) = do
    let first ← one part
    let others ← all parts
    return first ++ others

theorem Concatenates.ok_iff {α : Type} {one : α → Except Misuse (List Text)}
    {all : List α → Except Misuse (List Text)} (concatenates : Concatenates one all)
    {parts : List α} {lines : List Text} :
    all parts = .ok lines ↔
      ∃ blocks, List.Forall₂ (fun part own => one part = .ok own) parts blocks ∧
        lines = blocks.flatten := by
  induction parts generalizing lines with
  | nil =>
      simp only [concatenates.nil, Except.ok.injEq, List.forall₂_nil_left_iff, exists_eq_left,
        List.flatten_nil]
      exact eq_comm
  | cons part parts ih =>
      simp only [concatenates.cons, bind_eq_ok_iff, ih, List.forall₂_cons_left_iff]
      constructor
      · rintro ⟨first, own, _, ⟨blocks, later, rfl⟩, joined⟩
        cases joined
        exact ⟨_, ⟨first, blocks, own, later, rfl⟩, rfl⟩
      · rintro ⟨_, ⟨first, blocks, own, later, rfl⟩, rfl⟩
        exact ⟨first, own, _, ⟨blocks, later, rfl⟩, rfl⟩

/-- The lines of a part stand among those of all parts. -/
theorem Concatenates.exists_infix {α : Type} {one : α → Except Misuse (List Text)}
    {all : List α → Except Misuse (List Text)} (concatenates : Concatenates one all)
    {parts : List α} {lines : List Text} (rendered : all parts = .ok lines) :
    ∀ part ∈ parts, ∃ own, one part = .ok own ∧ own <:+: lines := by
  obtain ⟨blocks, each, rfl⟩ := concatenates.ok_iff.mp rendered
  rw [List.flatten_eq_flatMap]
  exact exists_infix_of_forall₂ each id

/-- What holds of the lines of each part holds of all lines. -/
theorem Concatenates.forall_mem {α : Type} {one : α → Except Misuse (List Text)}
    {all : List α → Except Misuse (List Text)} (concatenates : Concatenates one all)
    {kind : Text → Prop} {parts : List α} {lines : List Text}
    (each : ∀ part ∈ parts, ∀ own, one part = .ok own → ∀ line ∈ own, kind line)
    (rendered : all parts = .ok lines) : ∀ line ∈ lines, kind line := by
  induction parts generalizing lines with
  | nil =>
      rw [concatenates.nil] at rendered
      cases rendered
      exact nofun
  | cons part parts ih =>
      obtain ⟨first, later⟩ := List.forall_mem_cons.mp each
      simp only [concatenates.cons, bind_eq_ok_iff] at rendered
      obtain ⟨own, drawn, others, rest, joined⟩ := rendered
      cases joined
      exact List.forall_mem_append.mpr ⟨first own drawn, ih later rest⟩

theorem concatenates_membersLines :
    Concatenates (fun pair => memberLines pair.1 pair.2) membersLines :=
  ⟨rfl, fun _ _ => rfl⟩

theorem concatenates_methodsLines : Concatenates methodLines methodsLines :=
  ⟨rfl, fun _ _ => rfl⟩

/-- The lines of a field: its description, its suggested values and its declaration. -/
def ownFieldLines (pair : RecordProperty × Field) : Except Misuse (List Text) := do
  let described ← comments "    " pair.1.description
  return described ++ suggestionLines pair.1 ++ [pair.2.line]

theorem concatenates_fieldLines : Concatenates ownFieldLines fieldLines := by
  refine ⟨rfl, fun pair rest => ?_⟩
  rw [fieldLines, ownFieldLines]
  cases comments "    " pair.1.description with
  | error misuse => rfl
  | ok described =>
      cases fieldLines rest with
      | error misuse => rfl
      | ok lines => simp [pure, Except.pure, bind, Except.bind]

/-! ## Lines of classes -/

/-- The class of an enumeration, with given lines for its description and its values. -/
def enumLines (enumType : EnumType) (described members : List Text) : List Text :=
  let filler : List Text :=
    if enumType.members.isEmpty && described.isEmpty && !enumType.isOpen then ["    pass"]
    else []
  [enumHead enumType] ++ enumDocumentation enumType.isOpen described ++ members ++ filler

/-- The class of an enumeration, but for the name that it may need. -/
def enumBody (enumType : EnumType) : Rendering (List Text) := do
  let described ← Traced.ofExcept (quotedLines "    " enumType.description)
  let members ← Traced.ofExcept
    (membersLines ((freshLabels [] enumType.members).zip enumType.members))
  return enumLines enumType described members

theorem enumClass_eq (enumType : EnumType) :
    enumClass enumType = if enumType.isOpen then enumBody enumType
      else Traced.note .enum >>= fun _ => enumBody enumType := rfl

theorem enumClass_ok_iff {enumType : EnumType} {lines : List Text} :
    (enumClass enumType).outcome = .ok lines ↔
      ∃ described members, quotedLines "    " enumType.description = .ok described ∧
        membersLines ((freshLabels [] enumType.members).zip enumType.members) = .ok members ∧
        enumLines enumType described members = lines := by
  have ended : (enumClass enumType).outcome = (enumBody enumType).outcome := by
    rw [enumClass_eq]
    split
    · rfl
    · rw [Traced.bind_of_ok _ (Traced.outcome_note _)]
  simp only [ended, enumBody, Traced.outcome_bind_eq_ok_iff, Traced.outcome_ofExcept,
    Traced.outcome_pure, Except.ok.injEq, exists_and_left]

/-- The lines above the fields in the class of a record. -/
def linesAbove (record : Record) (described : List Text) : List Text :=
  "@dataclass_json" :: "@dataclass(kw_only=True)" :: recordHead record ::
    recordDocumentation described

/-- The lines below the fields: a class without a line needs one. -/
def linesBelow (record : Record) (described : List Text) : List Text :=
  if record.properties.isEmpty && described.isEmpty then ["    pass"] else []

theorem fieldOf_ok_iff {property : RecordProperty} {field : Field} :
    (fieldOf property).outcome = .ok field ↔
      ∃ annotated, (annotationOf property.type).outcome = .ok annotated ∧ {
        name := identifier property.name
        annotation := annotated
        initializer := initializer (identifier property.name ≠ property.name) property } =
          field := by
  by_cases renamed : identifier property.name ≠ property.name
  · simp [fieldOf, renamed, Traced.bind_of_ok _ (Traced.outcome_note _),
      Traced.outcome_map_eq_ok_iff]
  · simp [fieldOf, renamed, Traced.outcome_map_eq_ok_iff]

theorem recordClass_ok_iff {record : Record} {lines : List Text} :
    (recordClass record).outcome = .ok lines ↔
      ∃ fields described declarations, (fieldsOf record.properties).outcome = .ok fields ∧
        quotedLines "    " record.description = .ok described ∧
        fieldLines (record.properties.zip fields) = .ok declarations ∧
        linesAbove record described ++ declarations ++ linesBelow record described = lines := by
  simp only [recordClass, Traced.outcome_bind_eq_ok_iff, Traced.outcome_note,
    Traced.outcome_ofExcept, Traced.outcome_pure, Except.ok.injEq]
  constructor
  · rintro ⟨_, _, _, _, fields, bound, described, quoted, declarations, written, joined⟩
    exact ⟨fields, described, declarations, bound, quoted, written, joined⟩
  · rintro ⟨fields, described, declarations, bound, quoted, written, joined⟩
    exact ⟨(), trivial, (), trivial, fields, bound, described, quoted, declarations, written,
      joined⟩

/-- The lines above the methods of an interface. -/
def interfaceAbove (name : Json) (description : Text) : List Text :=
  ["class " ++ name.display ++ "(Protocol):", "    " ++ tripleQuote ++ description ++ tripleQuote]

theorem interfaceOf_ok_iff {α : Type} {name : Json} {description : Text}
    {method : α → Rendering Method} {operations : List α} {lines : List Text}
    (present : operations ≠ []) :
    (interfaceOf name description method operations).outcome = .ok lines ↔
      ∃ methods declarations, (methodsOf method operations).outcome = .ok methods ∧
        methodsLines methods = .ok declarations ∧
        spaced (interfaceAbove name description ++ declarations) = lines := by
  have busy : ¬ operations.isEmpty = true := mt List.isEmpty_iff.mp present
  simp only [interfaceOf, if_neg busy, interfaceClass, Traced.outcome_bind_eq_ok_iff,
    Traced.outcome_note, Traced.outcome_ofExcept, Traced.outcome_pure, Except.ok.injEq]
  constructor
  · rintro ⟨methods, ended, _, ⟨_, _, declarations, written, rfl⟩, joined⟩
    exact ⟨methods, declarations, ended, written, joined⟩
  · rintro ⟨methods, declarations, ended, written, joined⟩
    exact ⟨methods, ended, _, ⟨(), trivial, declarations, written, rfl⟩, joined⟩

theorem length_freshLabels (used : List Text) (members : List EnumMember) :
    (freshLabels used members).length = members.length := by
  induction members generalizing used with
  | nil => rfl
  | cons member rest ih => simp [freshLabels, ih]

end ProtocolBindings.Bindings
