import Mathlib.Tactic.SplitIfs
import ProtocolBindings.Generation
import ProtocolBindings.Proofs.Bindings.Layout
import ProtocolBindings.Proofs.Grammar.TextLiteral

/-!
# Text literals in generated code

The values of enumerations, the names that renamed fields keep and the version of the
schema are written as JSON texts and read as text literals.  A JSON text has an escape
for each UTF-16 unit, and a literal reads each escape as a code point of its own, so that
a text is had back exactly if none of its code points takes two units.
-/

namespace ProtocolBindings.Bindings

open Grammar (Denotes Plain literalQuotes readLiteral)
open Json (encodeCharacter encodeSymbol unitEscape)
open Model

/-! ## Symbols -/

/-- The UTF-16 units of a symbol, each as a symbol of its own. -/
def unitwise (symbol : Symbol) : Text :=
  if symbol.point < 0x10000 then [symbol]
  else [.ofPoint (0xD800 + (symbol.point - 0x10000) / 0x400),
    .ofPoint (0xDC00 + (symbol.point - 0x10000) % 0x400)]

theorem unitwise_of_lt {symbol : Symbol} (bound : symbol.point < 0x10000) :
    unitwise symbol = [symbol] := if_pos bound

/-- A symbol between space and tilde that is neither the quote nor the backslash. -/
theorem plain_of_printable {character : Char}
    (ordinary : ¬(decide (character = '"') || decide (character = '\\')) = true)
    (printable : (decide (32 ≤ character.toNat) && decide (character.toNat < 127)) = true) :
    Plain false (.char character) where
  noQuote isQuote := ordinary (by simp [Symbol.char.inj isQuote])
  noEscape isEscape := ordinary (by simp [Symbol.char.inj isEscape])
  inner := by
    refine .inr (Bool.eq_false_iff.mpr fun ended => ?_)
    rcases Text.eq_of_isLineEnd ended with feed | return_
    · rw [Symbol.char.inj feed] at printable
      cases printable
    · rw [Symbol.char.inj return_] at printable
      cases printable

theorem denotes_encodeCharacter (character : Char) :
    Denotes false (Text.ofCharacters (encodeCharacter character)) (unitwise (.char character)) := by
  unfold encodeCharacter
  dsimp only
  split_ifs with special feed return_ tab back form printable narrow
  · rcases Bool.or_eq_true_iff.mp special with quote | backslash
    · rw [of_decide_eq_true quote]
      exact .letter rfl
    · rw [of_decide_eq_true backslash]
      exact .letter rfl
  · exact feed ▸ .letter rfl
  · exact return_ ▸ .letter rfl
  · exact tab ▸ .letter rfl
  · exact back ▸ .letter rfl
  · exact form ▸ .letter rfl
  · have bound : (Symbol.char character).point < 0x10000 :=
      Nat.lt_trans (of_decide_eq_true (Bool.and_eq_true_iff.mp printable).2) (by decide)
    rw [unitwise_of_lt bound]
    exact .symbol (plain_of_printable special printable)
  · have bound : (Symbol.char character).point < 0x10000 := narrow
    rw [unitwise_of_lt bound, ← Symbol.ofPoint_point (.char character)]
    exact Grammar.denotes_unitEscape false bound
  · -- The two halves of the pair are read one by one.
    have wide : ¬(Symbol.char character).point < 0x10000 := narrow
    have small := Symbol.point_lt (.char character)
    rw [unitwise, if_neg wide]
    dsimp only [Symbol.point] at small ⊢
    rw [Text.ofCharacters, List.map_append]
    exact (Grammar.denotes_unitEscape false (by omega)).append
      (Grammar.denotes_unitEscape false (by omega))

theorem denotes_encodeSymbol (symbol : Symbol) :
    Denotes false (Text.ofCharacters (encodeSymbol symbol)) (unitwise symbol) := by
  cases symbol with
  | char character => exact denotes_encodeCharacter character
  | half offset =>
      have bound : (Symbol.half offset).point < 0x10000 := by
        simp only [Symbol.point]
        omega
      have escaped := Grammar.denotes_unitEscape false bound
      rw [Symbol.ofPoint_point] at escaped
      rw [encodeSymbol, unitwise, if_pos bound]
      exact escaped

/-! ## Texts -/

/-- A text as it is written in generated code. -/
def textLiteral (text : Text) : Text := Text.ofString (Json.encodeText text)

theorem textLiteral_eq (text : Text) :
    textLiteral text = literalQuotes false ++
      (text.flatMap (fun symbol => Text.ofCharacters (encodeSymbol symbol)) ++
        (literalQuotes false ++ [])) := by
  simp [textLiteral, Json.encodeText, Text.ofString, Text.ofCharacters, literalQuotes,
    List.map_flatMap]

/-- A text is read unit by unit. -/
theorem readLiteral_textLiteral (text rest : Text) :
    readLiteral false (textLiteral text ++ rest) = some (text.flatMap unitwise, rest) := by
  have denotes : Denotes false
      (text.flatMap fun symbol => Text.ofCharacters (encodeSymbol symbol))
      (text.flatMap unitwise) :=
    .flatMap fun symbol _ => denotes_encodeSymbol symbol
  have read := denotes.readLiteral_eq rest
  rw [textLiteral_eq]
  simp only [List.append_assoc, List.append_nil]
  exact read

/-- A text is the same unit by unit exactly if every code point of it takes one unit. -/
theorem flatMap_unitwise_eq_self_iff {text : Text} :
    text.flatMap unitwise = text ↔ ∀ symbol ∈ text, symbol.point < 0x10000 := by
  induction text with
  | nil => simp
  | cons symbol rest ih =>
      rw [List.flatMap_cons, List.forall_mem_cons, ← ih]
      by_cases bound : symbol.point < 0x10000
      · rw [unitwise_of_lt bound]
        simp [bound]
      · have small := Symbol.point_lt symbol
        have first :
            (Symbol.ofPoint (0xD800 + (symbol.point - 0x10000) / 0x400)).point < 0x10000 := by
          rw [Symbol.point_ofPoint_of_half (by omega) (by omega)]
          omega
        refine ⟨fun same => ?_, fun both => absurd both.1 bound⟩
        rw [unitwise, if_neg bound] at same
        rw [(List.cons.inj same).1] at first
        exact absurd first bound

/-! ## Where texts are written -/

theorem exists_label {members : List EnumMember} {member : EnumMember} (own : member ∈ members) :
    ∃ label, (label, member) ∈ (freshLabels [] members).zip members := by
  obtain ⟨position, bound, rfl⟩ := List.getElem_of_mem own
  have labelled : position < (freshLabels [] members).length := by
    rw [length_freshLabels]
    exact bound
  refine ⟨(freshLabels [] members)[position], List.mem_iff_getElem.mpr ⟨position, ?_, ?_⟩⟩
  · rw [List.length_zip]
    exact Nat.lt_min.mpr ⟨labelled, bound⟩
  · exact List.getElem_zip

theorem exists_infix_of_enumClass {enumType : EnumType} {lines : List Text}
    (rendered : (enumClass enumType).outcome = .ok lines) :
    ∃ members,
      membersLines ((freshLabels [] enumType.members).zip enumType.members) = .ok members ∧
      members <:+: lines := by
  obtain ⟨described, members, -, written, rfl⟩ := enumClass_ok_iff.mp rendered
  exact ⟨members, written, List.infix_append _ _ _⟩

def valueOpening (label : Text) : Text := "    " ++ label ++ " = "

/-- The line of a value stands in the class of its enumeration. -/
theorem exists_valueLine {enumType : EnumType} {lines : List Text}
    (rendered : (enumClass enumType).outcome = .ok lines) :
    ∀ member ∈ enumType.members, ∃ label,
      [valueOpening label ++ textLiteral member.value] <:+: lines := by
  intro member own
  obtain ⟨label, labelled⟩ := exists_label own
  obtain ⟨members, written, among⟩ := exists_infix_of_enumClass rendered
  obtain ⟨part, ended, within⟩ := concatenates_membersLines.exists_infix written _ labelled
  rw [memberLines, bind_eq_ok_iff] at ended
  obtain ⟨remark, _, joined⟩ := ended
  cases joined
  refine ⟨label, List.IsInfix.trans ?_ (within.trans among)⟩
  exact (List.suffix_append _ _).isInfix

theorem exists_infix_of_recordClass {record : Record} {lines : List Text}
    (rendered : (recordClass record).outcome = .ok lines) :
    ∃ fields members, (fieldsOf record.properties).outcome = .ok fields ∧
      fieldLines (record.properties.zip fields) = .ok members ∧ members <:+: lines := by
  obtain ⟨fields, described, members, bound, -, written, rfl⟩ := recordClass_ok_iff.mp rendered
  exact ⟨fields, members, bound, written, List.infix_append _ _ _⟩

theorem ofString_append (first second : String) :
    Text.ofString (first ++ second) = Text.ofString first ++ Text.ofString second := by
  simp [Text.ofString, Text.ofCharacters]

/-- The arguments that say the name of a property, and the end of the call. -/
def renamedCall (name : Text) : Text :=
  "metadata=config(field_name=" ++ textLiteral name ++ "))"

theorem initializer_renamed (property : RecordProperty) :
    initializer true property =
      some ((if property.required then ("field(" : Text) else "field(default=None, ") ++
        renamedCall property.name) := by
  have closing : Text.ofString "))" = Text.ofString ")" ++ Text.ofString ")" := rfl
  cases required : property.required <;>
    simp [initializer, renamedCall, textLiteral, required, ofString_append, closing]

/-- The line of a field that keeps the name of its property for the exchange, up to that
name. -/
def renamedOpening (property : RecordProperty) (annotated : Text) : Text :=
  let binding : Text := if property.required then "field(" else "field(default=None, "
  "    " ++ identifier property.name ++ ": " ++ annotated ++ " = " ++ binding ++
    "metadata=config(field_name="

theorem line_fieldOf {property : RecordProperty} {field : Field}
    (renamed : identifier property.name ≠ property.name)
    (bound : (fieldOf property).outcome = .ok field) :
    ∃ annotated,
      field.line = renamedOpening property annotated ++ textLiteral property.name ++ "))" := by
  obtain ⟨annotated, -, rfl⟩ := fieldOf_ok_iff.mp bound
  refine ⟨annotated, ?_⟩
  simp only [Field.line, renamed, ne_eq, not_false_eq_true, decide_true, initializer_renamed,
    renamedOpening, renamedCall, List.append_assoc]

/-- The line of a renamed field stands in the class of its record. -/
theorem exists_renamedLine {record : Record} {lines : List Text}
    (rendered : (recordClass record).outcome = .ok lines) :
    ∀ property ∈ record.properties, identifier property.name ≠ property.name →
      ∃ annotated,
        [renamedOpening property annotated ++ textLiteral property.name ++ "))"] <:+: lines := by
  intro property own renamed
  obtain ⟨fields, members, bound, written, among⟩ := exists_infix_of_recordClass rendered
  obtain ⟨field, ended, paired⟩ :=
    exists_zip_of_forall₂ (collects_fieldsOf.ok_iff.mp bound) property own
  obtain ⟨annotated, line⟩ := line_fieldOf renamed ended
  obtain ⟨part, declared, within⟩ := concatenates_fieldLines.exists_infix written _ paired
  rw [ownFieldLines, bind_eq_ok_iff] at declared
  obtain ⟨remark, _, joined⟩ := declared
  cases joined
  refine ⟨annotated, List.IsInfix.trans ?_ (within.trans among)⟩
  rw [← line]
  exact (List.suffix_append _ _).isInfix

/-- A text that stands as a literal in a line of code, between the other parts of the
line.  Reading goes on behind the literal, and has the text back exactly if every code
point of it takes one UTF-16 unit. -/
structure StandsAsLiteral (code text opening closing : Text) : Prop where
  line : HasLines code [opening ++ textLiteral text ++ closing]
  read : ∃ value, readLiteral false (textLiteral text ++ closing) = some (value, closing) ∧
    (value = text ↔ ∀ symbol ∈ text, symbol.point < 0x10000)

theorem standsAsLiteral {code text opening closing : Text}
    (line : HasLines code [opening ++ textLiteral text ++ closing]) :
    StandsAsLiteral code text opening closing :=
  ⟨line, text.flatMap unitwise, readLiteral_textLiteral text closing,
    flatMap_unitwise_eq_self_iff⟩

def versionOpening : Text := "SCHEMA_VERSION = "

/-- The texts of a model that code writes as literals. -/
structure WritesLiterals (model : Model) (code : Text) : Prop where
  values : ∀ enumType ∈ model.enumTypes, ∀ member ∈ enumType.members, ∃ label,
    StandsAsLiteral code member.value (valueOpening label) []
  /-- The names of the properties whose fields have another name. -/
  names : ∀ record ∈ orderRecords model.records, ∀ property ∈ record.properties,
    identifier property.name ≠ property.name → ∃ annotated,
      StandsAsLiteral code property.name (renamedOpening property annotated) "))"
  /-- The version of the schema, if it is a text. -/
  version : ∀ version, model.version = .text version →
    StandsAsLiteral code version versionOpening []

variable {config : Config} {model : Model} {comment code : Text}

/-- Every text that the code of a model writes as a literal is had back from it exactly if
every code point of the text takes one UTF-16 unit. -/
theorem literals_of_moduleText (rendered : (moduleText config model comment).outcome = .ok code) :
    WritesLiterals model code := by
  have parts := parts_of_moduleText rendered
  refine ⟨?_, ?_, ?_⟩
  · intro enumType among member own
    have ordered : enumType ∈ orderEnums model.enumTypes := by
      cases opened : enumType.isOpen <;> simp [orderEnums, among, opened]
    obtain ⟨lines, classes, stands⟩ := parts.enumTypes
    obtain ⟨part, drawn, within⟩ := exists_infix_of_classesOf classes enumType ordered
    obtain ⟨label, line⟩ := exists_valueLine drawn member own
    refine ⟨label, standsAsLiteral ?_⟩
    rw [List.append_nil]
    exact stands.of_infix (line.trans within)
  · intro record among property own renamed
    obtain ⟨lines, classes, stands⟩ := parts.records
    obtain ⟨part, drawn, within⟩ := exists_infix_of_classesOf classes record among
    obtain ⟨annotated, line⟩ := exists_renamedLine drawn property own renamed
    exact ⟨annotated, standsAsLiteral (stands.of_infix (line.trans within))⟩
  · intro version given
    refine standsAsLiteral (parts.head.of_infix ?_)
    rw [headLines, given, Json.encode, List.append_nil]
    have last : [versionOpening ++ textLiteral version] <:+:
        [emptyLine, versionOpening ++ textLiteral version, emptyLine, emptyLine] :=
      ⟨[emptyLine], [emptyLine, emptyLine], rfl⟩
    exact last.trans (List.suffix_append _ _).isInfix

/-- A model whose texts have a quote, a line feed and a backslash. -/
def quotesModel : Model where
  entities := [
    .enumType {
      name := "Mark"
      members := [⟨"say \"no\"", "SAY", .null, true⟩, ⟨"a\nb", "LINES", .null, true⟩]
      isOpen := false
      description := .null
      synthesized := false },
    .record {
      name := "Path"
      base := none
      properties := [⟨"to\\from", .scalar .string false, true, .null⟩]
      description := .null
      synthesized := false }]
  version := .text "é"

theorem literals_quotesModel :
    ∃ code, (moduleText {} quotesModel "").outcome = .ok code ∧
      WritesLiterals quotesModel code := by
  have succeeds : (moduleText {} quotesModel "").outcome.isOk = true := by decide +kernel
  have ended := Traced.outcome_eq_valueOr [] succeeds
  exact ⟨_, ended, literals_of_moduleText ended⟩

/-- A document with one enumeration, whose only value is beyond the basic plane. -/
def moodDocument : Json :=
  .object [("definitions", .object [("Mood", .object [("enum", .array [.text "😀"])])])]

/-- The value is written in the only line of its class, and read as two halves. -/
theorem moodDocument_value_not_readBack :
    let config : Config := { addGenerationComment := .bool false }
    ∃ code, (Generation.generate config moodDocument .null "").outcome = .ok code ∧
      valueOpening "_" ++ textLiteral "😀" ∈ Text.physicalLines code ∧
      readLiteral false (textLiteral "😀") = some ([.ofPoint 0xD83D, .ofPoint 0xDE00], []) ∧
      ([.ofPoint 0xD83D, .ofPoint 0xDE00] : Text) ≠ "😀" := by
  intro config
  have line : (Generation.generate config moodDocument .null "").outcome.toOption.map
      (fun code => decide (valueOpening "_" ++ textLiteral "😀" ∈ Text.physicalLines code)) =
        some true := by
    decide +kernel
  obtain ⟨code, ended, stands⟩ := Traced.exists_ok_of_map line
  exact ⟨code, ended, of_decide_eq_true stands, by decide +kernel, by decide⟩

end ProtocolBindings.Bindings
