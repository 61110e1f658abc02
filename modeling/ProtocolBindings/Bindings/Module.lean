import ProtocolBindings.Bindings.EnumClass
import ProtocolBindings.Bindings.Interface
import ProtocolBindings.Bindings.RecordClass
import ProtocolBindings.Bindings.RecordOrder
import ProtocolBindings.Config
import ProtocolBindings.Json.Literal
import ProtocolBindings.Model.Query

/-!
# Generated modules

The code of a model: a header comment, the imports, the version of the schema,
the enumerations (closed ones first), the records, and the two interfaces.  The
imports are exactly the trail that rendering leaves.
-/

namespace ProtocolBindings.Bindings

open Model (EnumType Record)

/-- Closed enumerations before open ones. -/
def orderEnums (enumTypes : List EnumType) : List EnumType :=
  (enumTypes.filter fun enumType => !enumType.isOpen) ++
    enumTypes.filter fun enumType => enumType.isOpen

/-- Two empty lines follow every class. -/
def spaced (lines : List Text) : List Text := lines ++ [emptyLine, emptyLine]

/-- The classes of a list of parts. -/
def classesOf {α : Type} (render : α → Rendering (List Text)) :
    List α → Rendering (List Text)
  | [] => return []
  | part :: parts => do
      let first ← render part
      let others ← classesOf render parts
      return spaced first ++ others

/-- The interface of a list of operations, if there are any. -/
def interfaceOf {α : Type} (name : Json) (description : Text)
    (method : α → Rendering Method) (operations : List α) : Rendering (List Text) := do
  if operations.isEmpty then return []
  else
    let methods ← methodsOf method operations
    let lines ← interfaceClass name.display description methods
    return spaced lines

/-- The lines of all classes of a model. -/
def modelLines (config : Config) (model : Model) : Rendering (List Text) := do
  Traced.note .annotations
  let enumTypes ← classesOf enumClass (orderEnums model.enumTypes)
  let records ← classesOf recordClass (orderRecords model.records)
  let server ← interfaceOf config.serverInterfaceName
    "Requests handled by a debug adapter." requestMethod model.requests
  let client ← interfaceOf config.clientInterfaceName
    "Events sent by a debug adapter to its client." eventMethod model.events
  return enumTypes ++ records ++ server ++ client

/-- The lines in front of the classes. -/
def headLines (comment : Text) (imports : List Import) (version : Json) : List Text :=
  (Text.lines comment).map (commentLine "") ++
    (importLines imports).map Text.ofString ++
    [emptyLine, "SCHEMA_VERSION = " ++ version.encode, emptyLine, emptyLine]

/-- The end of a line. -/
def lineEnd : Text := "\n"

/-- A text of whole lines. -/
def joinLines (lines : List Text) : Text := lines.flatMap (· ++ lineEnd)

/-- A text that ends with exactly one line feed. -/
def endOnce (text : Text) : Text :=
  Text.dropEndWhile (lineEnd.contains ·) text ++ lineEnd

/-- The code of a model below a header comment. -/
def moduleText (config : Config) (model : Model) (comment : Text) : Rendering Text :=
  let body := modelLines config model
  ⟨body.trail, body.outcome.map fun lines =>
    endOnce (joinLines (headLines comment body.trail model.version ++ lines))⟩

end ProtocolBindings.Bindings
