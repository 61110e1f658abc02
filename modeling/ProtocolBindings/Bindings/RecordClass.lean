import ProtocolBindings.Bindings.Annotation
import ProtocolBindings.Bindings.Description
import ProtocolBindings.Bindings.Identifier
import ProtocolBindings.Json.Printer
import ProtocolBindings.Model.Basic

/-!
# Classes of records

A record becomes a data class with one field for each property.  An optional
field has a default, and a field that cannot have the name of its property keeps
that name for the exchange.
-/

namespace ProtocolBindings.Bindings

open Model (Record RecordProperty)

/-- A field of a class: its name, its annotation and the value it is bound to. -/
structure Field where
  name : Text
  annotation : Text
  initializer : Option Text

/-- The value to which the field of a property is bound.  It says the property's
name if the field has another one. -/
def initializer (renamed : Bool) (property : RecordProperty) : Option Text :=
  if renamed then
    let metadata := "metadata=config(field_name=" ++ Json.encodeText property.name ++ ")"
    if property.required then some ("field(" ++ metadata ++ ")")
    else some ("field(default=None, " ++ metadata ++ ")")
  else if property.required then none
  else some "None"

/-- The field of a property. -/
def fieldOf (property : RecordProperty) : Rendering Field := do
  let name := identifier property.name
  let renamed := name ≠ property.name
  if renamed then
    Traced.note .field
    Traced.note .config
  let annotated ← annotationOf property.type
  return { name := name, annotation := annotated, initializer := initializer renamed property }

/-- The fields of some properties. -/
def fieldsOf : List RecordProperty → Rendering (List Field)
  | [] => return []
  | property :: properties => do
      let first ← fieldOf property
      let others ← fieldsOf properties
      return first :: others

/-- The line that declares a field. -/
def Field.line (field : Field) : Text :=
  let bound := match field.initializer with
    | some value => " = " ++ value
    | none => ""
  "    " ++ field.name ++ ": " ++ field.annotation ++ bound

/-- The comment that names the suggested values of a property. -/
def suggestionLines (property : RecordProperty) : List Text :=
  match property.type.openEnum with
  | some name => if name.isEmpty then [] else ["    # Suggested values: " ++ name]
  | none => []

/-- The lines of the fields of some properties, with their descriptions. -/
def fieldLines : List (RecordProperty × Field) → Except Misuse (List Text)
  | [] => return []
  | (property, field) :: rest => do
      let described ← comments "    " property.description
      let others ← fieldLines rest
      return described ++ suggestionLines property ++ [field.line] ++ others

/-- The first line of the class of a record. -/
def recordHead (record : Record) : Text :=
  match record.base with
  | some base =>
      if base.isEmpty then "class " ++ record.name ++ ":"
      else "class " ++ record.name ++ "(" ++ base ++ "):"
  | none => "class " ++ record.name ++ ":"

/-- The triple-quoted text of the class of a record. -/
def recordDocumentation (described : List Text) : List Text :=
  if described.isEmpty then []
  else ["    " ++ tripleQuote] ++ described ++ ["    " ++ tripleQuote, emptyLine]

/-- The lines of the class of a record. -/
def recordClass (record : Record) : Rendering (List Text) := do
  Traced.note .dataclass
  Traced.note .dataclassJson
  let fields ← fieldsOf record.properties
  let described ← Traced.ofExcept (quotedLines "    " record.description)
  let lines ← Traced.ofExcept (fieldLines (record.properties.zip fields))
  let head : List Text := ["@dataclass_json", "@dataclass(kw_only=True)", recordHead record]
  let filler : List Text :=
    if record.properties.isEmpty && described.isEmpty then ["    pass"] else []
  return head ++ recordDocumentation described ++ lines ++ filler

end ProtocolBindings.Bindings
