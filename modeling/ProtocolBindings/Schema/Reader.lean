import ProtocolBindings.Json.Access
import ProtocolBindings.Json.Literal
import ProtocolBindings.Processing
import ProtocolBindings.Schema.Fragment

/-!
# Reading schemas

Reading classifies each definition as a composition, an enumeration or an
object, and each property by its reference, its type and its enumeration, in
this order.  The enumerations under the marker of the configuration are open.
References are not followed.
-/

namespace ProtocolBindings.Schema

open Json (lookup field hasKey)
open Processing (checked misused refuse)

/-- What a property fragment is, before its parts are read. -/
inductive Form where
  | reference (target : Json)
  | typeList (types : List Json)
  | array
  | object
  | enumeration (values : Json) (isOpen : Bool)
  | primitive (typeName : Json)

/-- A fragment without enumeration whose type is no list, array or object. -/
def plainForm (members : List (Text × Json)) : Form :=
  let typeName := field members "type"
  if typeName = .null && hasKey "properties" members then .object
  else .primitive (if typeName.truthy then typeName else .text "")

/-- The first of these that applies: a reference; a list of types; an array; an
object; for texts and untyped fragments, a closed and then an open enumeration;
an untyped fragment with properties, which is an object; a primitive. -/
def formOf (marker : Json) (members : List (Text × Json)) : Except Misuse Form :=
  match lookup "$ref" members with
  | some target => .ok (.reference target)
  | none =>
      match field members "type" with
      | .array types => .ok (.typeList types)
      | typeName =>
          if typeName = .text "array" then .ok .array
          else if typeName = .text "object" then .ok .object
          else if typeName = .null || typeName = .text "string" then
            match lookup "enum" members with
            | some values => .ok (.enumeration values false)
            | none => do
                match ← Json.atKey members marker with
                | some values => return .enumeration values true
                | none => return plainForm members
          else .ok (plainForm members)

/-- The texts of enumeration values with their descriptions, the position of a
value being `position`.  A value whose text has occurred before is dropped. -/
def readValues (path : Text) (descriptions : Json) :
    (position : Nat) → (seen : List Text) → List Json → Processing (List (Text × Json))
  | _, _, [] => return []
  | position, seen, value :: values => do
      let shown := value.display
      if shown ∈ seen then
        Traced.note (.duplicateValue shown path)
        readValues path descriptions (position + 1) seen values
      else
        let description ← checked (descriptions.atPosition position)
        let others ← readValues path descriptions (position + 1) (shown :: seen) values
        return (shown, description) :: others

/-- An enumeration of the given values. -/
def readEnumeration (members : List (Text × Json)) (values : Json) (path : Text)
    (isOpen : Bool) : Processing Enumeration := do
  let descriptions := field members "enumDescriptions"
  let descriptions := if descriptions.truthy then descriptions else .array []
  let items ← checked values.items
  let read ← readValues path descriptions 0 [] items
  return {
    place := ⟨path, field members "description"⟩
    values := read.map Prod.fst
    descriptions := read.map Prod.snd
    isOpen := isOpen }

/-- The description of an object of the document. -/
def descriptionOf : Json → Json
  | .object members => field members "description"
  | _ => .null

/-- An object whose parts have been read: its declared properties, and the values
that it admits besides them when these are described. -/
def shapeOf (path : Text) (members : List (Text × Json))
    (properties : List (Property Fragment)) (described : Option Fragment) :
    ObjectShape Fragment where
  place := ⟨path, field members "description"⟩
  properties := properties
  declared := hasKey "properties" members
  additional := match described with
    | some fragment => .described fragment
    | none =>
        if lookup "additionalProperties" members = some (.bool true) then .anything
        else .unstated

/-- The value that holds the names of the required properties. -/
def requiredNames (members : List (Text × Json)) : Json :=
  (lookup "required" members).getD (.array [])

mutual

/-- The fragment that a value of the document describes. -/
def readFragment (marker : Json) (path : Text) : Json → Processing Fragment
  | .object members => do
      let place : Place := ⟨path, field members "description"⟩
      match ← checked (formOf marker members) with
      | .reference target => return .reference ⟨place, target⟩
      | .typeList types => return .typeList place types
      | .array => do
          let items ← readAt marker (path ++ "/items") "items" members
          return .array place items
      | .object => do
          let properties ← readDeclared marker path (requiredNames members) members
          let described ←
            readAt marker (path ++ "/additionalProperties") "additionalProperties" members
          return .object (shapeOf path members properties described)
      | .enumeration values isOpen => do
          let enumeration ← readEnumeration members values path isOpen
          return .enumeration enumeration
      | .primitive typeName => return .primitive place typeName
  | _ => misused .fieldOfNonObject

/-- The fragment that the value of a key describes, if the value is an object. -/
def readAt (marker : Json) (path key : Text) :
    List (Text × Json) → Processing (Option Fragment)
  | [] => return none
  | (name, value) :: members =>
      if name = key then
        if value.isObject then do
          let fragment ← readFragment marker path value
          return some fragment
        else return none
      else readAt marker path key members

/-- The properties that an object declares. -/
def readDeclared (marker : Json) (path : Text) (required : Json) :
    List (Text × Json) → Processing (List (Property Fragment))
  | [] => return []
  | (name, value) :: members =>
      if name = "properties" then readMapping marker path required value
      else readDeclared marker path required members

/-- The properties that a mapping describes; a value that counts as false
describes none. -/
def readMapping (marker : Json) (path : Text) (required : Json) :
    Json → Processing (List (Property Fragment))
  | .object entries => readProperties marker path required entries
  | value => if value.truthy then misused .fieldOfNonObject else return []

/-- The properties that the members of a mapping describe. -/
def readProperties (marker : Json) (path : Text) (required : Json) :
    List (Text × Json) → Processing (List (Property Fragment))
  | [] => return []
  | (name, value) :: entries => do
      let propertyPath := path ++ "/properties/" ++ name
      let fragment ← readFragment marker propertyPath value
      let isRequired ← checked (required.holdsText name)
      let others ← readProperties marker path required entries
      return {
        place := ⟨propertyPath, descriptionOf value⟩
        name := name
        required := isRequired
        fragment := some fragment } :: others

end

/-- The object that an object of the document describes. -/
def readObject (marker : Json) (path : Text) (members : List (Text × Json)) :
    Processing (ObjectShape Fragment) := do
  let properties ← readDeclared marker path (requiredNames members) members
  let described ←
    readAt marker (path ++ "/additionalProperties") "additionalProperties" members
  return shapeOf path members properties described

/-- The fragment under a key is that of the value found there. -/
theorem readAt_eq (marker : Json) (path key : Text) (members : List (Text × Json)) :
    readAt marker path key members =
      match lookup key members with
      | some (.object inner) => some <$> readFragment marker path (.object inner)
      | _ => pure none := by
  induction members with
  | nil => rw [readAt, lookup]
  | cons member members ih =>
      obtain ⟨name, value⟩ := member
      by_cases here : name = key
      · cases value <;> simp [readAt, lookup, here, Json.isObject]
      · simp [readAt, lookup, here, ih]

/-- The declared properties are those of the mapping found under their key. -/
theorem readDeclared_eq (marker : Json) (path : Text) (required : Json)
    (members : List (Text × Json)) :
    readDeclared marker path required members =
      match lookup "properties" members with
      | some mapping => readMapping marker path required mapping
      | none => pure [] := by
  induction members with
  | nil => rw [readDeclared, lookup]
  | cons member members ih =>
      obtain ⟨name, value⟩ := member
      by_cases here : name = "properties"
      · simp [readDeclared, lookup, here]
      · simp [readDeclared, lookup, here, ih]

/-- One part of a composition: a reference to its base, or an inline object. -/
inductive Part where
  | base (link : Link)
  | extension (shape : ObjectShape Fragment)

/-- The part that a member of a composition describes: a member that holds the
reference key is a reference, and must then be an object. -/
def readPart (marker : Json) (path : Text) (member : Json) : Processing Part := do
  if ← checked (member.holdsText "$ref") then
    match member with
    | .object members => return .base ⟨⟨path, .null⟩, field members "$ref"⟩
    | _ => misused .nameInSequence
  else
    let members ← checked member.members
    let shape ← readObject marker path members
    return .extension shape

/-- The parts of a composition, the position of the first being `position`. -/
def readParts (marker : Json) (path : Text) :
    (position : Nat) → List Json → Processing (List Part)
  | _, [] => return []
  | position, member :: members => do
      let part ← readPart marker (path ++ "/allOf/" ++ Nat.repr position) member
      let parts ← readParts marker path (position + 1) members
      return part :: parts

/-- The reference that a part is. -/
def Part.base? : Part → Option Link
  | .base link => some link
  | .extension _ => none

/-- The inline object that a part is. -/
def Part.extension? : Part → Option (ObjectShape Fragment)
  | .base _ => none
  | .extension shape => some shape

/-- A composition: its base is the last reference, and it has at most one inline
object, whose description it takes if it has none of its own. -/
def readComposition (marker : Json) (name path : Text)
    (members : List (Text × Json)) (composed : Json) : Processing Fragment := do
  let listed ← checked composed.items
  let parts ← readParts marker path 0 listed
  let base := (parts.filterMap Part.base?).getLast?.map Fragment.reference
  let description := field members "description"
  match parts.filterMap Part.extension? with
  | [] => return .composition ⟨path, description⟩ base none
  | [extension] =>
      let description :=
        if description = .null then extension.place.description else description
      return .composition ⟨path, description⟩ base (some (.object extension))
  | _ => refuse .severalInlineObjects name path

/-- The body of a definition. -/
def readBody (marker : Json) (name path : Text) (members : List (Text × Json)) :
    Processing Fragment := do
  match lookup "allOf" members with
  | some composed => readComposition marker name path members composed
  | none =>
      match lookup "enum" members with
      | some values => do
          let enumeration ← readEnumeration members values path false
          return .enumeration enumeration
      | none =>
          match ← checked (Json.atKey members marker) with
          | some values => do
              let enumeration ← readEnumeration members values path true
              return .enumeration enumeration
          | none => do
              let shape ← readObject marker path members
              return .object shape

/-- Whether an entry of the definitions is a comment: its name says so, or it is
no object. -/
def isComment (name : Text) : Json → Bool
  | .object _ => List.isPrefixOf ("_comment" : Text) name
  | _ => true

/-- The path of a definition. -/
def definitionPath (name : Text) : Text := "#/definitions/" ++ name

/-- The definitions among the entries, in order. -/
def readDefinitions (marker : Json) : List (Text × Json) → Processing (List Definition)
  | [] => return []
  | (name, value) :: rest => do
      if isComment name value then readDefinitions marker rest
      else
        let members ← checked value.members
        let path := definitionPath name
        let body ← readBody marker name path members
        let others ← readDefinitions marker rest
        return {
          name := name
          place := ⟨path, field members "description"⟩
          body := some body } :: others

/-- The definitions of a document. -/
def read (marker document : Json) : Processing (List Definition) := do
  let members ← checked document.members
  let entries ← checked (field members "definitions").optionalMembers
  let definitions ← readDefinitions marker entries
  Traced.note (.definitionsRead definitions.length)
  return definitions

end ProtocolBindings.Schema
