import ProtocolBindings.Bindings.Description
import ProtocolBindings.Bindings.Identifier
import ProtocolBindings.Bindings.Import
import ProtocolBindings.Json.Printer
import ProtocolBindings.Model.Basic

/-!
# Classes of enumerations

A closed enumeration becomes an enumeration class, an open one a class of
constants.  Labels that coincide are told apart by underscores at their end.
-/

namespace ProtocolBindings.Bindings

open Model (EnumMember EnumType)

/-- A label followed by as many underscores as it takes to differ from those
used.  There are at most as many to add as labels are used. -/
def freshLabel (used : List Text) : Nat → Text → Text
  | 0, label => label
  | rounds + 1, label =>
      if used.contains label then freshLabel used rounds (label ++ "_") else label

/-- The labels of some values in the generated code, after those used before. -/
def freshLabels : (used : List Text) → List EnumMember → List Text
  | _, [] => []
  | used, member :: members =>
      let label := freshLabel used used.length (identifier member.label)
      label :: freshLabels (label :: used) members

/-- The first line of the class of an enumeration. -/
def enumHead (enumType : EnumType) : Text :=
  if enumType.isOpen then "class " ++ enumType.name ++ ":"
  else "class " ++ enumType.name ++ "(str, Enum):"

/-- The lines of a value: its description and the constant. -/
def memberLines (label : Text) (member : EnumMember) : Except Misuse (List Text) := do
  let described ← comments "    " member.description
  return described ++ ["    " ++ label ++ " = " ++ Json.encodeText member.value]

/-- The lines of labelled values. -/
def membersLines : List (Text × EnumMember) → Except Misuse (List Text)
  | [] => return []
  | (label, member) :: rest => do
      let first ← memberLines label member
      let others ← membersLines rest
      return first ++ others

/-- What a class of suggested values says about itself. -/
def openEnumRemark : Text :=
  "    Suggested values only; any other string is accepted on the wire."

/-- The triple-quoted text of the class of an enumeration. -/
def enumDocumentation (isOpen : Bool) (described : List Text) : List Text :=
  if described.isEmpty && !isOpen then []
  else
    let gap := if described.isEmpty then [] else [emptyLine]
    let remark := if isOpen then gap ++ [openEnumRemark] else []
    ["    " ++ tripleQuote] ++ described ++ remark ++ ["    " ++ tripleQuote, emptyLine]

/-- The lines of the class of an enumeration. -/
def enumClass (enumType : EnumType) : Rendering (List Text) := do
  unless enumType.isOpen do Traced.note .enum
  let described ← Traced.ofExcept (quotedLines "    " enumType.description)
  let labels := freshLabels [] enumType.members
  let members ← Traced.ofExcept (membersLines (labels.zip enumType.members))
  let filler : List Text :=
    if enumType.members.isEmpty && described.isEmpty && !enumType.isOpen then ["    pass"]
    else []
  return [enumHead enumType] ++ enumDocumentation enumType.isOpen described ++ members ++ filler

end ProtocolBindings.Bindings
