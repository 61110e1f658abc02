import ProtocolBindings.Bindings.Import
import ProtocolBindings.Model.TypeDescriptor

/-!
# Annotations

The annotation of a type in the generated code.  An annotation that admits null
says so, unless it admits any value or none.
-/

namespace ProtocolBindings.Bindings

open Model (PrimitiveType TypeDescriptor TypeKind)

/-- The name of a scalar type. -/
def scalarName : PrimitiveType → Text
  | .string => "str"
  | .integer => "int"
  | .number => "float"
  | .boolean => "bool"

/-- Whether null has to be added to the annotation of a nullable type. -/
def statesNull (kind : TypeKind) : Bool := kind ≠ .any && kind ≠ .void

mutual

/-- The annotation of a type. -/
def annotationOf : TypeDescriptor → Rendering Text
  | ⟨kind, primitive, name, arguments, nullable, _⟩ => do
      let plain ← match kind with
        | .primitive => match primitive with
          | some scalar => pure (scalarName scalar)
          | none => .fail .absentPrimitive
        | .reference | .inlineEnum | .anonymousObject => pure name
        | .array => do
            let element ← annotationOfFirst arguments
            pure ("list[" ++ element ++ "]")
        | .map => do
            let value ← annotationOfLast arguments
            pure ("dict[str, " ++ value ++ "]")
        | .union => do
            let members ← annotations arguments
            pure (List.intercalate " | " members)
        | .void => pure "None"
        | .any => do
            Traced.note .any
            pure "Any"
      return if nullable && statesNull kind then plain ++ " | None" else plain

/-- The annotation of the first of some types. -/
def annotationOfFirst : List TypeDescriptor → Rendering Text
  | [] => .fail .absentArgument
  | first :: _ => annotationOf first

/-- The annotation of the last of some types. -/
def annotationOfLast : List TypeDescriptor → Rendering Text
  | [] => .fail .absentArgument
  | [last] => annotationOf last
  | _ :: second :: rest => annotationOfLast (second :: rest)

/-- The annotations of some types. -/
def annotations : List TypeDescriptor → Rendering (List Text)
  | [] => return []
  | first :: rest => do
      let annotated ← annotationOf first
      let others ← annotations rest
      return annotated :: others

end

end ProtocolBindings.Bindings
