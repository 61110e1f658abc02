import ProtocolBindings.Bindings.Module
import ProtocolBindings.Grammar.Rules
import ProtocolBindings.Judgement
import ProtocolBindings.Resolve.Basic

/-!
# Generation of bindings

From a schema document to the code of its bindings: the document is resolved, and
the model is rendered below a comment that says where the code comes from.  The code is not
formatted, since the formatter is no part of the generator.
-/

namespace ProtocolBindings.Generation

/-- The version of the generator, as the header states it. -/
def toolVersion : String := "1.0.0"

/-- The lines of the header comment. -/
def headerLines (version : Json) (commandLine : Text) : List Text :=
  let generator : Text := "Generated by protocol_schema_to_code " ++ toolVersion ++ ". Do not edit."
  generator :: (if commandLine.isEmpty then [] else ["Command: " ++ commandLine]) ++
    (if version.truthy then ["Schema version: " ++ version.display] else [])

/-- The header comment, unless the configuration does without it. -/
def header (config : Config) (version : Json) (commandLine : Text) : Text :=
  if config.addGenerationComment.truthy then
    List.intercalate Bindings.lineEnd (headerLines version commandLine)
  else ""

/-- The code of a model, without the names that it needs. -/
def render (config : Config) (model : Model) (comment : Text) : Processing Text :=
  Processing.checked (Bindings.moduleText config model comment).outcome

/-- The code of the bindings of a document.  The formatter is a package of its own, and this is
the generator where it is not installed: asking for it leaves a notice and the code as it is.
What the formatter makes of the code where it is installed is left out. -/
def generate (config : Config) (document version : Json) (commandLine : Text) :
    Processing Text := do
  let model ← Resolve.resolve config document version
  let code ← render config model (header config version commandLine)
  let formatter ← Processing.checked config.formatter.get
  if formatter.enabled.truthy then Traced.note .formatterAbsent
  return code

/-- Generated code is accepted if it is a module of its language. -/
def validate : Validator := fun code => do
  let module ← encodable code
  if module.toList.contains '\x00' then .error .nullCharacter
  else if Grammar.isModule module.toList then .ok ()
  else .error (.rejected "Generated Python code is not valid")

end ProtocolBindings.Generation
