import ProtocolBindings.Bindings.Annotation
import ProtocolBindings.Bindings.Description
import ProtocolBindings.Bindings.Identifier
import ProtocolBindings.Model.Basic

/-!
# Interfaces

The requests and the events of a protocol become the methods of one interface
each.  A method that cannot have the name that is exchanged says so in a comment.
-/

namespace ProtocolBindings.Bindings

open Model (Event Request TypeDescriptor)

/-- A method of an interface. -/
structure Method where
  name : Text
  wireName : Text
  arguments : Option Text
  returns : Text
  description : Json
  returnsDescription : Json

/-- The annotation of a type that may be missing. -/
def annotation? : Option TypeDescriptor → Rendering (Option Text)
  | none => return none
  | some type => do
      let annotated ← annotationOf type
      return some annotated

/-- The method of a request. -/
def requestMethod (request : Request) : Rendering Method := do
  let arguments ← annotation? request.arguments
  let returns ← match request.returns with
    | some type => annotationOf type
    | none => .fail .absentReturnType
  return {
    name := identifier request.command
    wireName := request.command
    arguments := arguments
    returns := returns
    description := request.description
    returnsDescription := request.responseDescription }

/-- The method of an event. -/
def eventMethod (event : Event) : Rendering Method := do
  let arguments ← annotation? event.body
  return {
    name := identifier event.event
    wireName := event.event
    arguments := arguments
    returns := "None"
    description := event.description
    returnsDescription := .null }

/-- The methods of a list of operations. -/
def methodsOf {α : Type} (method : α → Rendering Method) : List α → Rendering (List Method)
  | [] => return []
  | operation :: operations => do
      let first ← method operation
      let others ← methodsOf method operations
      return first :: others

/-- The line that declares a method. -/
def methodHead (method : Method) : Text :=
  let arguments := match method.arguments with
    | some annotated => if annotated.isEmpty then "" else ", args: " ++ annotated
    | none => ""
  "    def " ++ method.name ++ "(self" ++ arguments ++ ") -> " ++ method.returns ++ ":"

/-- The comment that says under which name a method is exchanged. -/
def wireNameLines (method : Method) : List Text :=
  if method.name = method.wireName then []
  else ["    # Sent as \"" ++ method.wireName ++ "\""]

/-- The line above the description of a method's result. -/
def returnsHeading : Text := "        Returns:"

/-- The triple-quoted text of a method, from the lines of its description and of
that of its result. -/
def methodDocumentation (described result : List Text) : List Text :=
  if described.isEmpty && result.isEmpty then []
  else
    let gap := if described.isEmpty then [] else [emptyLine]
    let returns := if result.isEmpty then [] else gap ++ returnsHeading :: result
    ["        " ++ tripleQuote] ++ described ++ returns ++ ["        " ++ tripleQuote]

/-- The body of a method. -/
def stub : Text := "        ..."

/-- The lines of a method, after an empty one. -/
def methodLines (method : Method) : Except Misuse (List Text) := do
  let described ← quotedLines "        " method.description
  let result ← quotedLines "            " method.returnsDescription
  let documentation := methodDocumentation described result
  return emptyLine :: wireNameLines method ++ methodHead method :: documentation ++ [stub]

/-- The lines of some methods. -/
def methodsLines : List Method → Except Misuse (List Text)
  | [] => return []
  | method :: methods => do
      let first ← methodLines method
      let others ← methodsLines methods
      return first ++ others

/-- The lines of an interface. -/
def interfaceClass (name description : Text) (methods : List Method) :
    Rendering (List Text) := do
  Traced.note .protocol
  let lines ← Traced.ofExcept (methodsLines methods)
  return ["class " ++ name ++ "(Protocol):",
    "    " ++ tripleQuote ++ description ++ tripleQuote] ++ lines

end ProtocolBindings.Bindings
