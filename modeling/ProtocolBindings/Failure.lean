import ProtocolBindings.Text.Quoted

/-!
# Failures

A schema is refused for a stated reason, found while a definition is resolved.
A document or configuration whose values have the wrong JSON type is misused,
and the misuse is named by what could not be done with the value.
-/

namespace ProtocolBindings

/-- Why a definition cannot be resolved. -/
inductive Objection where
  /-- A well-formed reference names no definition. -/
  | unresolvedReference (reference : Text)
  /-- A reference is not well-formed, and references are read strictly. -/
  | malformedReference (reference : Text)
  /-- A request has no response definition. -/
  | missingResponse (expected : Text)
  /-- A request or event has no fixed value for its command or event name. -/
  | missingDiscriminator (property : Text)
  /-- A type list stands for too many alternatives. -/
  | tooManyAlternatives (count : Nat)
  /-- The values of an inline mapping have properties of their own. -/
  | propertiesInValues
  /-- A composition has more than one inline object. -/
  | severalInlineObjects
  /-- Two entities have one name. -/
  | duplicateEntity (name origin previous : Text)
  /-- The body of a definition is no object, enumeration or composition. -/
  | unsupportedShape
deriving DecidableEq, Repr

namespace Objection

/-- The kind under which an objection is reported. -/
def kind : Objection → String
  | .unresolvedReference _ => "UnresolvedReferenceError"
  | .malformedReference _ => "MalformedReferenceError"
  | .missingResponse _ => "MissingResponseDefinitionError"
  | .missingDiscriminator _ => "MissingDiscriminatorError"
  | .tooManyAlternatives _ => "UnsupportedUnionArityError"
  | .propertiesInValues => "UnhandledObjectShapeError"
  | .severalInlineObjects => "UnsupportedCompositionError"
  | .duplicateEntity _ _ _ => "DuplicateEntityNameError"
  | .unsupportedShape => "SchemaResolutionError"

/-- What is objected to, without its place. -/
def summary : Objection → Text
  | .unresolvedReference reference => "Unresolved $ref " ++ Text.quoted reference
  | .malformedReference reference => "Malformed $ref " ++ Text.quoted reference
  | .missingResponse expected => "No response definition " ++ Text.quoted expected
  | .missingDiscriminator property => "No fixed " ++ Text.quoted property ++ " value"
  | .tooManyAlternatives count =>
      "Type list collapses to " ++ Nat.repr count ++ " alternatives"
  | .propertiesInValues => "Inline object with properties as additionalProperties"
  | .severalInlineObjects => "allOf composition has more than one inline object"
  | .duplicateEntity name origin previous =>
      "Entity " ++ Text.quoted name ++ " from " ++ origin ++ " clashes with " ++ previous
  | .unsupportedShape => "Unsupported definition shape"

end Objection

/-- An objection, with the definition being resolved and the place inside it
where these are known. -/
structure ResolutionError where
  objection : Objection
  owner : Text := ""
  detail : Text := ""
deriving DecidableEq, Repr

namespace ResolutionError

/-- The owner, followed by the detail in brackets; either may be missing. -/
def location (error : ResolutionError) : Text :=
  if error.detail.isEmpty then error.owner
  else if error.owner.isEmpty then error.detail
  else error.owner ++ " (" ++ error.detail ++ ")"

/-- The objection and, if there is one, its location. -/
def message (error : ResolutionError) : Text :=
  if error.location.isEmpty then error.objection.summary
  else error.objection.summary ++ ": " ++ error.location

end ResolutionError

/-- What could not be done with a value of the wrong JSON type. -/
inductive Misuse where
  /-- A field was looked up in a value that is not an object. -/
  | fieldOfNonObject
  /-- The items were taken of a value that has none. -/
  | itemsOfScalar
  /-- An item was sought in a value that holds none. -/
  | searchInScalar
  /-- A value that is no text was sought in a text. -/
  | searchForNonText
  /-- The length was taken of a value that has none. -/
  | lengthOfScalar
  /-- A list or text was looked up by name. -/
  | nameInSequence
  /-- An object has no member for a position. -/
  | absentMember
  /-- A list or object was used as a key. -/
  | unhashable
  /-- A reference is no text. -/
  | nonTextReference
  /-- A description is no text. -/
  | nonTextDescription
  /-- The formatter has no option of a name. -/
  | unknownFormatterOption
  /-- There is no output mode of a name. -/
  | unknownOutputMode
  /-- A section of the configuration is no section. -/
  | nonSection
  /-- An option of the configuration is absent. -/
  | absentOption
  /-- The attributes of a configuration were replaced by a value that is no object. -/
  | nonObjectAttributes
  /-- A part of the configuration that cannot be changed was given a value. -/
  | fixedAttribute
  /-- The kind of a configuration was replaced. -/
  | replacedKind
  /-- A configuration whose export was replaced was exported. -/
  | replacedExport
  /-- A reference was followed before any schema was analysed. -/
  | noSchema
  /-- The base of a composition is no reference. -/
  | nonReferenceBase
  /-- The extension of a composition is no object. -/
  | nonObjectExtension
  /-- An entity was asked for something that only the other kind of entity has. -/
  | wrongEntity
  /-- A primitive type names no primitive. -/
  | absentPrimitive
  /-- An array or a mapping has no argument. -/
  | absentArgument
  /-- A request has no return type. -/
  | absentReturnType
deriving DecidableEq, Repr

/-- Why a schema yields no model, or a model no code. -/
inductive Failure where
  | resolution (error : ResolutionError)
  | misuse (misuse : Misuse)
deriving DecidableEq, Repr

end ProtocolBindings
