import Mathlib.Data.List.TakeWhile
import ProtocolBindings.Proofs.Bindings.ClassNames
import ProtocolBindings.Proofs.Bindings.Literals
import ProtocolBindings.Proofs.Bindings.MemberNames
import ProtocolBindings.Proofs.Bindings.Needs
import ProtocolBindings.Proofs.Model.Variant
import ProtocolBindings.Proofs.Resolve.RecordObjects
import ProtocolBindings.Proofs.Resolve.Synthesis
import ProtocolBindings.Text.NormalForm

/-!
# Optional fields

The field of a property has a default if the property is not required.  Its annotation ends with
the alternative None if the property is not required or lists null among its types, unless any
value is admitted.

The language takes the name of a field in normal form, and the field is exchanged under this form
unless it says another name.  A field that is not renamed has the name of its property as it is
written, so that the property is exchanged under its own name only if that is in normal form.
-/

namespace ProtocolBindings.Bindings

open Grammar (readLiteral)
open Model
open Resolve
open Schema (HoldsObject ListsNull declaredEntries entriesOf requiredNames)

/-! ## Annotations -/

def noneAlternative : Text := " | None"

/-- An annotation has None as its last alternative. -/
def EndsWithNone (annotated : Text) : Prop := noneAlternative <:+ annotated

/-- What names are made of, and what stands between names in an annotation. -/
def isAnnotationSymbol (symbol : Symbol) : Bool :=
  symbol.is (fun character => Text.isIdentifierStart character ||
    Text.isIdentifierContinue character) || decide (symbol ∈ Text.ofString " ,[]|")

/-- An annotation without regard to null. -/
structure PlainAnnotation (plain : Text) : Prop where
  symbols : ∀ symbol ∈ plain, isAnnotationSymbol symbol = true
  unended : ¬ EndsWithNone plain

/-- A text whose last symbol is another than that of the alternative None. -/
def EndsApart (text : Text) : Prop := ∃ before last, text = before ++ [last] ∧ last ≠ .char 'e'

theorem EndsApart.append {text : Text} (apart : EndsApart text) (before : Text) :
    EndsApart (before ++ text) := by
  obtain ⟨stem, last, rfl, other⟩ := apart
  exact ⟨before ++ stem, last, (List.append_assoc _ _ _).symm, other⟩

theorem EndsApart.not_endsWithNone {text : Text} (apart : EndsApart text) :
    ¬ EndsWithNone text := by
  obtain ⟨stem, last, rfl, other⟩ := apart
  rintro ⟨before, same⟩
  have ends := congrArg List.getLast? same
  have letter : noneAlternative.getLast? = some (.char 'e') := rfl
  rw [List.getLast?_concat, List.getLast?_append, letter, Option.some_or] at ends
  exact other (Option.some.inj ends).symm

theorem endsApart_scalarName (type : PrimitiveType) : EndsApart (scalarName type) := by
  cases type with
  | string => exact ⟨"st", .char 'r', rfl, by decide⟩
  | integer => exact ⟨"in", .char 't', rfl, by decide⟩
  | number => exact ⟨"floa", .char 't', rfl, by decide⟩
  | boolean => exact ⟨"boo", .char 'l', rfl, by decide⟩

theorem symbols_scalarName (type : PrimitiveType) :
    ∀ symbol ∈ scalarName type, isAnnotationSymbol symbol = true := by
  cases type <;> decide

theorem plainAnnotation_scalar (type : PrimitiveType) : PlainAnnotation (scalarName type) :=
  ⟨symbols_scalarName type, (endsApart_scalarName type).not_endsWithNone⟩

/-- A text is an identifier of the generated language. -/
def IsIdentifier (name : Text) : Prop := name.characters?.any Text.isIdentifier = true

instance (name : Text) : Decidable (IsIdentifier name) :=
  inferInstanceAs (Decidable (_ = true))

/-- What an identifier is made of. -/
theorem IsIdentifier.symbols {name : Text} (usable : IsIdentifier name) :
    ∀ symbol ∈ name, symbol.is (fun character =>
      Text.isIdentifierStart character || Text.isIdentifierContinue character) = true := by
  cases name with
  | nil => exact nofun
  | cons first rest =>
      rw [IsIdentifier, characters?_any_isIdentifier_cons, Bool.and_eq_true,
        List.all_eq_true] at usable
      refine List.forall_mem_cons.mpr ⟨?_, fun symbol member => ?_⟩
      · cases first with
        | half offset => cases usable.1
        | char character => exact Bool.or_eq_true_iff.mpr (.inl usable.1)
      · have continues := usable.2 symbol member
        cases symbol with
        | half offset => cases continues
        | char character => exact Bool.or_eq_true_iff.mpr (.inr continues)

/-- There is no blank in an identifier. -/
theorem plainAnnotation_identifier {name : Text} (usable : IsIdentifier name) :
    PlainAnnotation name := by
  refine ⟨fun symbol member => Bool.or_eq_true_iff.mpr (.inl (usable.symbols symbol member)), ?_⟩
  intro ends
  have blank : Symbol.char ' ' ∈ name := ends.subset (by decide)
  exact absurd (usable.symbols _ blank) (by decide)

theorem plainAnnotation_bracketed {opening inner : Text}
    (opened : ∀ symbol ∈ opening, isAnnotationSymbol symbol = true)
    (symbols : ∀ symbol ∈ inner, isAnnotationSymbol symbol = true) :
    PlainAnnotation (opening ++ inner ++ "]") := by
  have closed : ∀ symbol ∈ Text.ofString "]", isAnnotationSymbol symbol = true := by decide
  have apart : EndsApart "]" := ⟨"", .char ']', rfl, by decide⟩
  refine ⟨?_, (apart.append _).not_endsWithNone⟩
  exact List.forall_mem_append.mpr ⟨List.forall_mem_append.mpr ⟨opened, symbols⟩, closed⟩

theorem plainAnnotation_alternatives {members : List PrimitiveType} (present : members ≠ []) :
    PlainAnnotation (List.intercalate " | " (members.map scalarName)) := by
  have between : ∀ symbol ∈ Text.ofString " | ", isAnnotationSymbol symbol = true := by decide
  suffices both : (∀ symbol ∈ List.intercalate " | " (members.map scalarName),
      isAnnotationSymbol symbol = true) ∧
      EndsApart (List.intercalate " | " (members.map scalarName)) from
    ⟨both.1, both.2.not_endsWithNone⟩
  induction members with
  | nil => exact absurd rfl present
  | cons first rest ih =>
      cases rest with
      | nil =>
          rw [List.map_singleton, List.intercalate_singleton]
          exact ⟨symbols_scalarName first, endsApart_scalarName first⟩
      | cons second rest =>
          obtain ⟨symbols, apart⟩ := ih (List.cons_ne_nil _ _)
          rw [List.map_cons, List.map_cons, List.intercalate_cons_cons, ← List.map_cons]
          refine ⟨?_, apart.append _⟩
          exact List.forall_mem_append.mpr ⟨List.forall_mem_append.mpr
            ⟨symbols_scalarName first, between⟩, symbols⟩

/-- What null adds to the annotation of a type. -/
def withNone (type : TypeDescriptor) (plain : Text) : Text :=
  if type.nullable && statesNull type.kind then plain ++ noneAlternative else plain

theorem PlainAnnotation.symbols_withNone {plain : Text} (stands : PlainAnnotation plain)
    (type : TypeDescriptor) : ∀ symbol ∈ withNone type plain, isAnnotationSymbol symbol = true := by
  have alternative : ∀ symbol ∈ noneAlternative, isAnnotationSymbol symbol = true := by decide
  rw [withNone]
  split
  · exact List.forall_mem_append.mpr ⟨stands.symbols, alternative⟩
  · exact stands.symbols

/-- The annotation of a type: that of the type without regard to null, and the alternative
None if null is admitted. -/
structure Annotates (type : TypeDescriptor) (annotated : Text) : Prop where
  form : ∃ plain, PlainAnnotation plain ∧ annotated = withNone type plain
  any : type.kind = .any → annotated = "Any"

theorem Annotates.symbols {type : TypeDescriptor} {annotated : Text}
    (annotates : Annotates type annotated) :
    ∀ symbol ∈ annotated, isAnnotationSymbol symbol = true := by
  obtain ⟨plain, stands, rfl⟩ := annotates.form
  exact stands.symbols_withNone type

theorem Annotates.endsWithNone_iff {type : TypeDescriptor} {annotated : Text}
    (annotates : Annotates type annotated) :
    EndsWithNone annotated ↔ (type.nullable && statesNull type.kind) = true := by
  obtain ⟨plain, stands, rfl⟩ := annotates.form
  rw [withNone]
  split
  · rename_i stated
    exact iff_of_true (List.suffix_append _ _) stated
  · rename_i unstated
    exact iff_of_false stands.unended unstated

/-- The entities that a type names can be named. -/
def NamesIdentifiers (type : TypeDescriptor) : Prop :=
  ∀ part ∈ type.parts, part.kind = .reference ∨ part.kind = .inlineEnum ∨
    part.kind = .anonymousObject → IsIdentifier part.name

theorem NamesIdentifiers.own {type : TypeDescriptor} (named : NamesIdentifiers type)
    (names : type.kind = .reference ∨ type.kind = .inlineEnum ∨ type.kind = .anonymousObject) :
    IsIdentifier type.name :=
  named type (type.parts_eq ▸ List.mem_cons_self) names

theorem outcome_annotations_scalars (members : List PrimitiveType) :
    (annotations (members.map (TypeDescriptor.scalar · false))).outcome =
      .ok (members.map scalarName) := by
  induction members with
  | nil => rfl
  | cons first rest ih =>
      have own : (annotationOf (.scalar first false)).outcome = .ok (scalarName first) := by
        rw [TypeDescriptor.scalar, annotationOf]
        rfl
      rw [List.map_cons, annotations, Traced.bind_of_ok _ own, Traced.bind_of_ok _ ih]
      rfl

/-- The annotation of a type that does not admit every value. -/
theorem annotates_of_plain {type : TypeDescriptor} {plain : Text} (limited : type.kind ≠ .any)
    (stands : PlainAnnotation plain) : Annotates type (withNone type plain) :=
  ⟨⟨plain, stands, rfl⟩, fun free => absurd free limited⟩

/-- A well-formed type that names identifiers has an annotation of this form. -/
theorem exists_annotates {type : TypeDescriptor} (formed : type.WellFormed)
    (named : NamesIdentifiers type) :
    ∃ annotated, (annotationOf type).outcome = .ok annotated ∧ Annotates type annotated := by
  induction formed with
  | any nullable =>
      have plain : PlainAnnotation "Any" :=
        ⟨by decide, EndsApart.not_endsWithNone ⟨"An", .char 'y', rfl, by decide⟩⟩
      have unstated (text : Text) :
          withNone (TypeDescriptor.any.withNullable nullable) text = text :=
        if_neg (by simp [statesNull])
      refine ⟨_, ?_, ⟨_, plain, (unstated _).symm⟩, fun _ => rfl⟩
      rw [TypeDescriptor.any, TypeDescriptor.withNullable, annotationOf]
      exact congrArg Except.ok (unstated "Any")
  | scalar type nullable =>
      refine ⟨_, ?_, annotates_of_plain (by simp [TypeDescriptor.scalar])
        (plainAnnotation_scalar type)⟩
      rw [TypeDescriptor.scalar, annotationOf]
      rfl
  | suggestedText openEnum nullable =>
      refine ⟨_, ?_, annotates_of_plain (by simp [TypeDescriptor.suggestedText])
        (plainAnnotation_scalar .string)⟩
      rw [TypeDescriptor.suggestedText, annotationOf]
      rfl
  | reference name nullable =>
      refine ⟨_, ?_, annotates_of_plain (by simp [TypeDescriptor.reference])
        (plainAnnotation_identifier (named.own (.inl rfl)))⟩
      rw [TypeDescriptor.reference, annotationOf]
      rfl
  | inlineEnum name nullable =>
      refine ⟨_, ?_, annotates_of_plain (by simp [TypeDescriptor.inlineEnum])
        (plainAnnotation_identifier (named.own (.inr (.inl rfl))))⟩
      rw [TypeDescriptor.inlineEnum, annotationOf]
      rfl
  | anonymousObject name nullable =>
      refine ⟨_, ?_, annotates_of_plain (by simp [TypeDescriptor.anonymousObject])
        (plainAnnotation_identifier (named.own (.inr (.inr rfl))))⟩
      rw [TypeDescriptor.anonymousObject, annotationOf]
      rfl
  | @arrayOf element nullable inner ih =>
      obtain ⟨annotated, ended, annotates⟩ := ih fun part member =>
        named part (by rw [TypeDescriptor.parts_arrayOf]; exact List.mem_cons_of_mem _ member)
      have opened : ∀ symbol ∈ Text.ofString "list[", isAnnotationSymbol symbol = true := by decide
      refine ⟨_, ?_, annotates_of_plain (by simp [TypeDescriptor.arrayOf])
        (plainAnnotation_bracketed opened annotates.symbols)⟩
      rw [TypeDescriptor.arrayOf, annotationOf, annotationOfFirst,
        Traced.bind_of_ok _ ended]
      rfl
  | @mapOf value nullable inner ih =>
      obtain ⟨annotated, ended, annotates⟩ := ih fun part member =>
        named part (by
          rw [TypeDescriptor.parts_mapOf]
          exact List.mem_cons_of_mem _ (List.mem_cons_of_mem _ member))
      have opened : ∀ symbol ∈ Text.ofString "dict[str, ", isAnnotationSymbol symbol = true := by
        decide
      refine ⟨_, ?_, annotates_of_plain (by simp [TypeDescriptor.mapOf])
        (plainAnnotation_bracketed opened annotates.symbols)⟩
      rw [TypeDescriptor.mapOf, annotationOf, annotationOfLast, annotationOfLast,
        Traced.bind_of_ok _ ended]
      rfl
  | @unionOf members nullable distinct several bounded =>
      have present : members ≠ [] := by
        rintro rfl
        cases several
      refine ⟨_, ?_, annotates_of_plain (by simp [TypeDescriptor.unionOf])
        (plainAnnotation_alternatives present)⟩
      rw [TypeDescriptor.unionOf, annotationOf,
        Traced.bind_of_ok _ (outcome_annotations_scalars members)]
      rfl

/-! ## Declarations -/

def declarationOpening (name : Text) : Text := "    " ++ name ++ ": "

/-- The field that a line declares: an annotation ends where the field is bound. -/
def declaration? (line : Text) : Option Field := do
  let name ← fieldName? line
  let declared ← Text.afterStart? (declarationOpening name) line
  let annotated := declared.takeWhile (· ≠ .char '=')
  match declared.drop annotated.length with
  | [] => some { name := name, annotation := declared, initializer := none }
  | _ :: bound =>
      some { name := name, annotation := annotated.dropLast, initializer := some (bound.drop 1) }

theorem Annotates.unassigned {type : TypeDescriptor} {annotated : Text}
    (annotates : Annotates type annotated) : ∀ symbol ∈ annotated, symbol ≠ .char '=' := by
  rintro symbol member rfl
  exact absurd (annotates.symbols _ member) (by decide)

/-- A field is read from its line. -/
theorem declaration?_line {property : RecordProperty} {field : Field}
    (bound : (fieldOf property).outcome = .ok field)
    (unassigned : ∀ symbol ∈ field.annotation, symbol ≠ .char '=') :
    declaration? field.line = some field := by
  have name := fieldName?_line bound
  rw [← name_of_fieldOf bound] at name
  have passed : ∀ symbol ∈ field.annotation, decide (symbol ≠ .char '=') = true :=
    fun symbol member => decide_eq_true (unassigned symbol member)
  obtain ⟨own, annotated, initializer⟩ := field
  rw [declaration?, name]
  cases initializer with
  | none =>
      have whole : annotated.takeWhile (· ≠ .char '=') = annotated :=
        List.takeWhile_eq_self_iff.mpr passed
      have line : Field.line ⟨own, annotated, none⟩ = declarationOpening own ++ annotated :=
        List.append_nil _
      simp only [line, Grammar.Denotes.afterStart?_append, Option.bind_eq_bind, Option.bind_some,
        whole, List.drop_length]
  | some value =>
      have line : Field.line ⟨own, annotated, some value⟩ = declarationOpening own ++
          ((annotated ++ [.char ' ']) ++ .char '=' :: .char ' ' :: value) := by
        simp only [Field.line, declarationOpening, List.append_assoc]
        rfl
      have part : ((annotated ++ [Symbol.char ' ']) ++ Symbol.char '=' :: Symbol.char ' ' ::
          value).takeWhile (· ≠ .char '=') = annotated ++ [.char ' '] := by
        rw [List.append_assoc, List.takeWhile_append_of_pos passed]
        rfl
      simp only [line, Grammar.Denotes.afterStart?_append, Option.bind_eq_bind, Option.bind_some,
        part, List.drop_left, List.dropLast_concat, List.drop_one, List.tail_cons]

/-- The lines of a field are read as the field and nothing else. -/
theorem declarations_ownFieldLines {property : RecordProperty} {field : Field} {own : List Text}
    (read : declaration? field.line = some field)
    (written : ownFieldLines (property, field) = .ok own) :
    own.filterMap declaration? = [field] := by
  have unread {lines : List Text} (unnamed : lines.filterMap fieldName? = []) :
      lines.filterMap declaration? = [] := by
    refine List.filterMap_eq_nil_iff.mpr fun line member => ?_
    rw [declaration?, List.filterMap_eq_nil_iff.mp unnamed line member]
    rfl
  obtain ⟨remarks, described, joined⟩ := bind_eq_ok_iff.mp written
  cases joined
  rw [List.filterMap_append, List.filterMap_append, unread (fieldName?_comments described),
    unread (fieldName?_suggestionLines property), List.nil_append, List.nil_append,
    List.filterMap_cons_some read, List.filterMap_nil]

/-- The class of a record is read as some fields. -/
def ReadsFields (record : Record) (lines : List Text) (fields : List Field) : Prop :=
  ∃ described declarations, quotedLines "    " record.description = .ok described ∧
    lines = linesAbove record described ++ declarations ++ linesBelow record described ∧
    declarations.filterMap declaration? = fields

theorem readsFields_of_recordClass {record : Record} {lines : List Text} {fields : List Field}
    (bound : (fieldsOf record.properties).outcome = .ok fields)
    (unassigned : ∀ property ∈ record.properties, ∀ field,
      (fieldOf property).outcome = .ok field → ∀ symbol ∈ field.annotation, symbol ≠ .char '=')
    (rendered : (recordClass record).outcome = .ok lines) : ReadsFields record lines fields := by
  obtain ⟨others, described, declarations, same, quoted, written, rfl⟩ :=
    recordClass_ok_iff.mp rendered
  cases bound.symm.trans same
  obtain ⟨blocks, drawn, rfl⟩ := concatenates_fieldLines.ok_iff.mp written
  have each := collects_fieldsOf.ok_iff.mp bound
  have read : ∀ pair ∈ record.properties.zip fields,
      declaration? (Field.line (Prod.snd pair)) = some (Prod.snd pair) := by
    intro pair member
    have own := List.forall₂_zip each member
    exact declaration?_line own (unassigned _ (List.of_mem_zip member).1 _ own)
  have alone : List.Forall₂ (fun pair own => own.filterMap declaration? = [Prod.snd pair])
      (record.properties.zip fields) blocks :=
    ((List.forall₂_and_left _ _).mpr ⟨read, drawn⟩).imp fun pair own both =>
      declarations_ownFieldLines both.1 both.2
  refine ⟨described, blocks.flatten, quoted, rfl, ?_⟩
  rw [filterMap_flatten_of_forall₂ alone, List.map_snd_zip (Nat.le_of_eq each.length_eq.symm)]

/-! ## Defaults and names -/

/-- A field is bound to a value, or by a call of `field` that says a default. -/
def Field.HasDefault (field : Field) : Prop :=
  ∃ value, field.initializer = some value ∧
    (Text.ofString "field(" <+: value → Text.ofString "field(default=" <+: value)

/-- None stands for a value that is not given, as it is or inside of a call. -/
def Field.DefaultsToNone (field : Field) : Prop :=
  field.initializer = some "None" ∨
    ∃ rest : Text, field.initializer = some (Text.ofString "field(default=None, " ++ rest)

/-- What follows the key under which a field says its name for the exchange. -/
def exchangeName? (value : Text) : Option Text :=
  (Text.afterStart? "field(default=None, metadata=config(field_name=" value).or
    (Text.afterStart? "field(metadata=config(field_name=" value)

/-- The name under which a field is exchanged, as far as the field tells it: its own in normal
form, unless it says another one.  Nothing is exchanged under a name that is no identifier, and
what a class makes of a name that it changes is not told by the field. -/
def Field.wireName? (field : Field) : Option Text :=
  if IsIdentifier field.name then
    match field.initializer.bind exchangeName? with
    | some literal => (readLiteral false literal).map Prod.fst
    | none => if IsMangled (Text.normal field.name) then none else some (Text.normal field.name)
  else none

theorem exchangeName?_required (name : Text) :
    exchangeName? (Text.ofString "field(" ++ renamedCall name) =
      some (textLiteral name ++ "))") := by
  have opening : Text.ofString "field(" ++ renamedCall name =
      Text.ofString "field(metadata=config(field_name=" ++ (textLiteral name ++ "))") := by
    simp only [renamedCall, List.append_assoc]
    rfl
  have apart : Text.afterStart? (Text.ofString "field(default=None, metadata=config(field_name=")
      (Text.ofString "field(metadata=config(field_name=" ++ (textLiteral name ++ "))")) =
        none := rfl
  rw [opening, exchangeName?, apart, Option.none_or, Grammar.Denotes.afterStart?_append]

theorem exchangeName?_optional (name : Text) :
    exchangeName? (Text.ofString "field(default=None, " ++ renamedCall name) =
      some (textLiteral name ++ "))") := by
  have opening : Text.ofString "field(default=None, " ++ renamedCall name =
      Text.ofString "field(default=None, metadata=config(field_name=" ++
        (textLiteral name ++ "))") := by
    simp only [renamedCall, List.append_assoc]
    rfl
  rw [opening, exchangeName?, Grammar.Denotes.afterStart?_append, Option.some_or]

/-- A name of characters that take one UTF-16 unit each is had back from a call. -/
theorem wireName?_of_call {field : Field} {value name : Text}
    (initial : field.initializer = some value)
    (given : exchangeName? value = some (textLiteral name ++ "))")) :
    field.wireName? = some name ↔
      IsIdentifier field.name ∧ ∀ symbol ∈ name, symbol.point < 0x10000 := by
  rw [Field.wireName?, initial, Option.bind_some, given, Option.ite_none_right_eq_some]
  simp only [readLiteral_textLiteral, Option.map_some, Option.some.injEq]
  rw [flatMap_unitwise_eq_self_iff]

/-- A field that says no name has its own one in normal form. -/
theorem wireName?_of_silent {field : Field} (silent : field.initializer.bind exchangeName? = none)
    (unchanged : ¬ IsMangled field.name) :
    field.wireName? = some field.name ↔ IsIdentifier field.name ∧ Text.IsNormal field.name := by
  rw [Field.wireName?, silent, Option.ite_none_right_eq_some]
  refine and_congr_right fun _ => ?_
  simp only [Option.ite_none_left_eq_some, Option.some.injEq]
  constructor
  · exact And.right
  · intro normal
    have kept : ¬ IsMangled (Text.normal field.name) := by rwa [normal]
    exact ⟨kept, normal⟩

/-- The field of a property that a value of the document describes. -/
structure RendersProperty (property : RecordProperty) (value : Json) (field : Field) : Prop where
  bound : (fieldOf property).outcome = .ok field
  default : field.HasDefault ↔ property.required = false
  none : property.required = false → field.DefaultsToNone
  /-- The default is stated without a call unless the field has another name. -/
  plain : field.initializer = some "None" ↔ property.required = false ∧ field.name = property.name
  optional : property.required = false →
    field.annotation = "Any" ∨ EndsWithNone field.annotation
  required : property.required = true →
    (EndsWithNone field.annotation ↔ ListsNull value ∧ field.annotation ≠ "Any")
  /-- A field that is not renamed is exchanged under the name of its property if that is in
  normal form.  A renamed one says the name, which is had back if every code point takes one
  UTF-16 unit. -/
  wireName : field.wireName? = some property.name ↔ IsIdentifier field.name ∧
    (field.name = property.name → Text.IsNormal property.name) ∧
    (field.name ≠ property.name → ∀ symbol ∈ property.name, symbol.point < 0x10000)
  ascii : (∀ symbol ∈ property.name, symbol.point < 128) →
    (field.wireName? = some property.name ↔ IsIdentifier field.name)

/-- The ways in which the field of a property is bound: under the name of the property as it is
written, or by a call that says this name. -/
inductive Bound (property : RecordProperty) (field : Field) : Prop where
  | required (same : field.name = property.name) (required : property.required = true)
      (initial : field.initializer = none)
  | optional (same : field.name = property.name) (optional : property.required = false)
      (initial : field.initializer = some "None")
  | requiredCall (other : field.name ≠ property.name) (required : property.required = true)
      (initial : field.initializer =
        some (Text.ofString "field(" ++ renamedCall property.name))
  | optionalCall (other : field.name ≠ property.name) (optional : property.required = false)
      (initial : field.initializer =
        some (Text.ofString "field(default=None, " ++ renamedCall property.name))

theorem bound_of_fieldOf {property : RecordProperty} {field : Field}
    (bound : (fieldOf property).outcome = .ok field) : Bound property field := by
  obtain ⟨annotated, -, rfl⟩ := fieldOf_ok_iff.mp bound
  by_cases same : identifier property.name = property.name
  · cases required : property.required with
    | true => exact .required same required (by simp [initializer, same, required])
    | false => exact .optional same required (by simp [initializer, same, required])
  · cases required : property.required with
    | true => exact .requiredCall same required (by simp [initializer_renamed, same, required])
    | false => exact .optionalCall same required (by simp [initializer_renamed, same, required])

namespace Bound

variable {property : RecordProperty} {field : Field} (bound : Bound property field)

include bound

theorem hasDefault_iff : field.HasDefault ↔ property.required = false := by
  rw [Field.HasDefault]
  cases bound with
  | required same required initial => simp [initial, required]
  | optional same optional initial =>
      exact iff_of_true ⟨_, initial, by decide⟩ optional
  | requiredCall other required initial =>
      refine iff_of_false ?_ (by simp [required])
      rintro ⟨value, given, call⟩
      cases initial.symm.trans given
      obtain ⟨rest, same⟩ := call (List.prefix_append _ _)
      have letter : some (Symbol.char 'd') = some (.char 'm') :=
        congrArg (fun text : Text => text[6]?) same
      exact absurd letter (by decide)
  | optionalCall other optional initial =>
      exact iff_of_true ⟨_, initial, fun _ => ⟨_, rfl⟩⟩ optional

theorem defaultsToNone (optional : property.required = false) : field.DefaultsToNone := by
  cases bound with
  | optional same _ initial => exact .inl initial
  | optionalCall other _ initial => exact .inr ⟨_, initial⟩
  | required same required | requiredCall other required =>
      cases optional.symm.trans required

theorem initializer_eq_none_iff :
    field.initializer = some "None" ↔ property.required = false ∧ field.name = property.name := by
  cases bound with
  | required same required initial => simp [initial, required]
  | optional same optional initial => exact iff_of_true initial ⟨optional, same⟩
  | requiredCall other required initial | optionalCall other optional initial =>
      refine iff_of_false (fun given => ?_) fun both => other both.2
      have letter : some (Symbol.char 'f') = some (.char 'N') :=
        congrArg List.head? (Option.some.inj (initial.symm.trans given))
      exact absurd letter (by decide)

theorem wireName?_iff (unchanged : ¬ IsMangled field.name) :
    field.wireName? = some property.name ↔ IsIdentifier field.name ∧
    (field.name = property.name → Text.IsNormal property.name) ∧
    (field.name ≠ property.name → ∀ symbol ∈ property.name, symbol.point < 0x10000) := by
  cases bound with
  | required same required initial =>
      have silent : field.initializer.bind exchangeName? = none := by rw [initial]; rfl
      simpa [same] using wireName?_of_silent silent unchanged
  | optional same optional initial =>
      have silent : field.initializer.bind exchangeName? = none := by rw [initial]; rfl
      simpa [same] using wireName?_of_silent silent unchanged
  | requiredCall other required initial =>
      simpa [other] using wireName?_of_call initial (exchangeName?_required _)
  | optionalCall other optional initial =>
      simpa [other] using wireName?_of_call initial (exchangeName?_optional _)

/-- A name of ASCII is in normal form, and its code points take one UTF-16 unit each. -/
theorem wireName?_iff_of_ascii (unchanged : ¬ IsMangled field.name)
    (ascii : ∀ symbol ∈ property.name, symbol.point < 128) :
    field.wireName? = some property.name ↔ IsIdentifier field.name := by
  have low : ∀ symbol ∈ property.name, symbol.point < 0xA0 := fun symbol member =>
    Nat.lt_trans (ascii symbol member) (by decide)
  have narrow : ∀ symbol ∈ property.name, symbol.point < 0x10000 := fun symbol member =>
    Nat.lt_trans (ascii symbol member) (by decide)
  have normal : Text.IsNormal property.name := Text.isNormal_of_lt low
  rw [bound.wireName?_iff unchanged]
  exact and_iff_left ⟨fun _ => normal, fun _ => narrow⟩

end Bound

theorem annotates_of_fieldOf {property : RecordProperty} {field : Field}
    (formed : property.type.WellFormed) (named : NamesIdentifiers property.type)
    (bound : (fieldOf property).outcome = .ok field) :
    Annotates property.type field.annotation := by
  obtain ⟨annotated, ended, annotates⟩ := exists_annotates formed named
  obtain ⟨same, again, rfl⟩ := fieldOf_ok_iff.mp bound
  cases ended.symm.trans again
  exact annotates

/-- The field of a property to which an entry is resolved has a default and the alternative None
as the entry calls for them. -/
theorem rendersProperty {marker required : Json} {follow : Reference.Follow}
    {entry : Text × Json} {property : RecordProperty} {field : Field}
    (resolves : ResolvesEntry marker follow required entry property)
    (formed : property.type.WellFormed) (named : NamesIdentifiers property.type)
    (bound : (fieldOf property).outcome = .ok field) : RendersProperty property entry.2 field := by
  have binds := bound_of_fieldOf bound
  have unchanged : ¬ IsMangled field.name := name_of_fieldOf bound ▸ not_isMangled_identifier _
  have annotates := annotates_of_fieldOf formed named bound
  have ends (limited : property.type.kind ≠ .any) :
      EndsWithNone field.annotation ↔ property.required = false ∨ ListsNull entry.2 := by
    have stated : statesNull property.type.kind = true := by
      simp [statesNull, limited, formed.kind_ne_void]
    rw [annotates.endsWithNone_iff, stated, Bool.and_true, resolves.nullable_iff limited]
  have unended (free : field.annotation = "Any") : ¬ EndsWithNone field.annotation :=
    free ▸ EndsApart.not_endsWithNone ⟨"An", .char 'y', rfl, by decide⟩
  constructor
  case bound => exact bound
  case default => exact binds.hasDefault_iff
  case none => exact binds.defaultsToNone
  case plain => exact binds.initializer_eq_none_iff
  case wireName => exact binds.wireName?_iff unchanged
  case ascii => exact binds.wireName?_iff_of_ascii unchanged
  case optional =>
    intro optional
    by_cases free : property.type.kind = .any
    · exact .inl (annotates.any free)
    · exact .inr ((ends free).mpr (.inl optional))
  case required =>
    intro required
    constructor
    · intro ended
      have limited : property.type.kind ≠ .any := fun free => unended (annotates.any free) ended
      refine ⟨?_, fun free => unended free ended⟩
      exact ((ends limited).mp ended).resolve_left (by simp [required])
    · rintro ⟨null, limited⟩
      exact (ends fun free => limited (annotates.any free)).mpr (.inr null)

/-! ## Records -/

/-- The names of the entities and of the references of a model can be used as they are. -/
structure UsesIdentifiers (model : Model) : Prop where
  entities : ∀ entity ∈ model.entities, IsIdentifier entity.name
  references : ∀ type ∈ model.occurrences, type.kind = .reference → IsIdentifier type.name

/-- What is inline in a type is an entity of the model, so that its name can be used as well. -/
theorem UsesIdentifiers.namesIdentifiers {config : Config} {version : Json} {model : Model}
    {definitions : List Schema.Definition} (uses : UsesIdentifiers model)
    (analyzed : (analyze config definitions version).outcome = .ok model) :
    ∀ type ∈ model.descriptors, NamesIdentifiers type := by
  intro type member part inside names
  have occurs : part ∈ model.occurrences := List.mem_flatMap.mpr ⟨type, member, inside⟩
  have inline {coinage : Coinage} (coined : coinage ∈ part.coinages)
      (named : coinage.name = part.name) : IsIdentifier part.name := by
    obtain ⟨entity, found, -⟩ := entity?_of_coinage analyzed occurs coined
    obtain ⟨among, same⟩ := mem_of_entity? found
    rw [← named, ← same]
    exact uses.entities entity among
  rcases names with reference | enumeration | record
  · exact uses.references part occurs reference
  · have coined : .closedEnum part.name ∈ part.coinages := by
      simp [TypeDescriptor.coinages, enumeration]
    exact inline coined rfl
  · have coined : .record part.name ∈ part.coinages := by
      simp [TypeDescriptor.coinages, record]
    exact inline coined rfl

/-- An entry of an object, the property to which it is resolved, and the field of the property. -/
structure RendersEntry (required : Json) (entry : Text × Json)
    (pair : RecordProperty × Field) : Prop where
  name : pair.1.name = entry.1
  required : required.holdsText entry.1 = .ok pair.1.required
  rendered : RendersProperty pair.1 entry.2 pair.2

/-- The fields of a record of a model. -/
structure RendersRecord (config : Config) (document : Json) (model : Model) (record : Record)
    (fields : List Field) : Prop where
  /-- There is one field for each property that an object of the document declares. -/
  properties : ∃ entry ∈ entriesOf document, ∃ members, HoldsObject entry.2 members ∧
    record.properties.length = fields.length ∧
    List.Forall₂ (RendersEntry (requiredNames members)) (declaredEntries members)
      (record.properties.zip fields)
  /-- The lines of the class are read as these fields. -/
  lines : ∀ lines, (recordClass record).outcome = .ok lines → ReadsFields record lines fields
  /-- The class stands in the code of the model. -/
  code : ∀ comment code, (moduleText config model comment).outcome = .ok code →
    ∃ lines, (recordClass record).outcome = .ok lines ∧ HasLines code lines

theorem rendersEntries {marker required : Json} {follow : Reference.Follow}
    {entries : List (Text × Json)} {properties : List RecordProperty} {fields : List Field}
    (resolves : List.Forall₂ (ResolvesEntry marker follow required) entries properties)
    (typed : ∀ property ∈ properties, property.type.WellFormed ∧ NamesIdentifiers property.type)
    (bound : List.Forall₂ (fun property field => (fieldOf property).outcome = .ok field)
      properties fields) :
    List.Forall₂ (RendersEntry required) entries (properties.zip fields) := by
  induction resolves generalizing fields with
  | nil => exact .nil
  | cons first _ ih =>
      cases bound with
      | cons own later =>
          obtain ⟨formed, named⟩ := typed _ List.mem_cons_self
          refine .cons ⟨?_, ?_, rendersProperty first formed named own⟩
            (ih (List.forall_mem_cons.mp typed).2 later)
          · cases first
            rfl
          · cases first with
            | entry read held inferred => exact held

section

variable {config : Config} {document version : Json} {model : Model}

/-- The class of a record stands in the code of its model. -/
theorem exists_recordClass_of_moduleText {comment code : Text}
    (distinct : (model.entities.map Entity.name).Nodup)
    (rendered : (moduleText config model comment).outcome = .ok code) :
    ∀ record ∈ model.records,
      ∃ lines, (recordClass record).outcome = .ok lines ∧ HasLines code lines := by
  intro record member
  have ordered := orderRecords_perm (distinct.sublist (names_records_sublist model.entities))
  obtain ⟨lines, classes, stands⟩ := (parts_of_moduleText rendered).records
  obtain ⟨own, drawn, within⟩ :=
    exists_infix_of_classesOf classes record (ordered.mem_iff.mpr member)
  exact ⟨own, drawn, stands.of_infix within⟩

/-- The fields of every record of a model that uses identifiers have the defaults and the
alternatives of None that the document calls for, and it is known which of them are exchanged
under the names of their properties. -/
theorem exists_rendersRecord_of_resolve
    (resolved : (resolve config document version).outcome = .ok model)
    (uses : UsesIdentifiers model) :
    ∀ record ∈ model.records, ∃ fields, RendersRecord config document model record fields := by
  intro record member
  obtain ⟨definitions, read, analyzed⟩ := Traced.outcome_bind_eq_ok_iff.mp resolved
  obtain ⟨entry, among, members, holds, resolves⟩ :=
    describedIn_of_analyze read analyzed record member
  obtain ⟨entity, present, own⟩ := List.mem_filterMap.mp member
  have known : entity = .record record := by
    cases entity with
    | record content =>
        cases own
        rfl
    | enumType content => cases own
  subst known
  have typed : ∀ property ∈ record.properties,
      property.type.WellFormed ∧ NamesIdentifiers property.type := by
    intro property inside
    have declared : property.type ∈ Entity.descriptors (.record record) :=
      List.mem_map_of_mem inside
    have types := typesHold_of_analyze (preserved_wellFormed _) analyzed
    exact ⟨types.properties _ present _ declared,
      uses.namesIdentifiers analyzed _ (mem_descriptors_of_entity present declared)⟩
  obtain ⟨fields, ended, -⟩ := (collects_fieldsOf.ends fun property inside =>
    fieldOf_succeeds (.inl (typed property inside).1)).exists_ok
  have bound := collects_fieldsOf.ok_iff.mp ended
  refine ⟨fields, ?_⟩
  constructor
  case properties =>
    have entries := rendersEntries resolves typed bound
    exact ⟨entry, among, members, holds, bound.length_eq, entries⟩
  case lines =>
    intro lines
    refine readsFields_of_recordClass ended fun property inside field own => ?_
    obtain ⟨formed, named⟩ := typed property inside
    exact (annotates_of_fieldOf formed named own).unassigned
  case code =>
    intro comment code rendered
    have distinct := names_nodup_of_analyze analyzed
    exact exists_recordClass_of_moduleText distinct rendered record member

end

/-- A document with a record whose properties are required and optional, renamed and not, and of
several types. -/
def pathDocument : Json :=
  let typed (type : Json) : Json := .object [("type", type)]
  let point : Json := .object
    [("properties", .object [("x", typed (.text "integer")), ("y", typed (.text "integer"))]),
      ("required", .array [.text "x", .text "y"])]
  let path : Json := .object
    [("properties", .object [
        ("line-width", typed (.array [.text "number", .text "null"])),
        ("dash-array", .object [("type", .text "array"), ("items", typed (.text "number"))]),
        ("start", .object [("$ref", .text "#/definitions/Point")]),
        ("note", .object [])]),
      ("required", .array [.text "line-width"])]
  .object [("definitions", .object [("Point", point), ("Path", path)])]

theorem rendersRecord_pathDocument :
    ∃ model, (resolve {} pathDocument .null).outcome = .ok model ∧ UsesIdentifiers model ∧
      model.records.map Record.name = [Text.ofString "Point", "Path"] ∧
      ∀ record ∈ model.records, ∃ fields, RendersRecord {} pathDocument model record fields := by
  have succeeds : (resolve {} pathDocument .null).outcome.isOk = true := by decide +kernel
  have ended := Traced.outcome_eq_valueOr {} succeeds
  have uses : UsesIdentifiers ((resolve {} pathDocument .null).valueOr {}) :=
    ⟨by decide +kernel, by decide +kernel⟩
  exact ⟨_, ended, uses, by decide +kernel, exists_rendersRecord_of_resolve ended uses⟩

/-- A document with a record whose property is named with the micro sign. -/
def pulseDocument : Json :=
  .object [("definitions", .object [("Pulse", .object [("properties",
    .object [("\u00b5s", .object [("type", .text "string")])])])])]

/-- The property is not renamed, and its field is exchanged under a name with the Greek letter. -/
theorem pulseDocument_field_otherName :
    let name : Text := "\u00b5s"
    let other : Text := "\u03bcs"
    let line : Text := "    \u00b5s: str | None = None"
    ∃ model, (resolve {} pulseDocument .null).outcome = .ok model ∧ UsesIdentifiers model ∧
      ∃ record ∈ model.records, ∃ property ∈ record.properties, ∃ field,
        (property.name = name ∧ ∀ symbol ∈ property.name, symbol.point < 0x10000) ∧
        ((fieldOf property).outcome = .ok field ∧ field.line = line) ∧
        field.wireName? = some other ∧ other ≠ name := by
  intro name other line
  have succeeds : (resolve {} pulseDocument .null).outcome.isOk = true := by decide +kernel
  have ended := Traced.outcome_eq_valueOr {} succeeds
  have uses : UsesIdentifiers ((resolve {} pulseDocument .null).valueOr {}) :=
    ⟨by decide +kernel, by decide +kernel⟩
  let shows (property : RecordProperty) : Text × Option (Text × Option Text) :=
    (property.name,
      (fieldOf property).outcome.toOption.map fun field => (field.line, field.wireName?))
  have shown : ((resolve {} pulseDocument .null).valueOr {}).records.map
      (fun record => record.properties.map shows) = [[(name, some (line, some other))]] := by
    decide +kernel
  have among : [(name, some (line, some other))] ∈ ((resolve {} pulseDocument .null).valueOr
      {}).records.map fun record => record.properties.map shows :=
    shown ▸ List.mem_singleton_self _
  obtain ⟨record, member, properties⟩ := List.exists_of_mem_map among
  have inside : (name, some (line, some other)) ∈ record.properties.map shows :=
    properties ▸ List.mem_singleton_self _
  obtain ⟨property, own, both⟩ := List.exists_of_mem_map inside
  obtain ⟨named, rendered⟩ := Prod.mk.inj both
  obtain ⟨field, bound, written⟩ := Traced.exists_ok_of_map rendered
  obtain ⟨same, exchanged⟩ := Prod.mk.inj written
  refine ⟨_, ended, uses, record, member, property, own, field, ⟨named, ?_⟩, ⟨bound, same⟩,
    exchanged, by decide⟩
  rw [named]
  decide

end ProtocolBindings.Bindings
