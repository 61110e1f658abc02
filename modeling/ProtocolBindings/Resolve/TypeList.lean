import ProtocolBindings.Failure
import ProtocolBindings.Json.Basic
import ProtocolBindings.Model.TypeDescriptor

/-!
# Type lists

A list of type names stands for one type: for any value when it names every JSON
type or a type that is no scalar, and otherwise for the distinct scalars that it
names, alone or as a union.  A null among the names makes the type nullable.
-/

namespace ProtocolBindings.Resolve

open Model (PrimitiveType TypeDescriptor)

/-- The scalar that a type name stands for in a list; none for a type that can
only be any value. -/
abbrev MemberTable := List (Text × Option PrimitiveType)

/-- The scalars of the JSON types.  Numbers in a list count as integers. -/
def standardMembers : MemberTable :=
  [("string", some .string), ("integer", some .integer), ("number", some .integer),
    ("boolean", some .boolean), ("array", none), ("object", none)]

/-- The names of all JSON types. -/
def jsonTypeNames : List Text :=
  ["array", "boolean", "integer", "null", "number", "object", "string"]

/-- The most alternatives of a union. -/
def maxUnionArity : Nat := 3

/-- The scalar of a type name. -/
def MemberTable.scalar? (table : MemberTable) (name : Text) : Option PrimitiveType :=
  (table.lookup name).join

/-- The distinct scalars that the names stand for, after those collected before;
none as soon as a name has no scalar. -/
def collectScalars (table : MemberTable) (collected : List PrimitiveType) :
    List Json → Except Misuse (Option (List PrimitiveType))
  | [] => .ok (some collected)
  | .text name :: types =>
      if name = "null" then collectScalars table collected types
      else match table.scalar? name with
        | none => .ok none
        | some scalar =>
            collectScalars table
              (if scalar ∈ collected then collected else collected ++ [scalar]) types
  | value :: _ => if value.hashable then .ok none else .error .unhashable

/-- Whether a list names every JSON type once and nothing else. -/
def namesEveryType (types : List Json) : Except Misuse Bool :=
  if types.length = jsonTypeNames.length then
    if types.all Json.hashable then
      .ok (jsonTypeNames.all fun name => decide (.text name ∈ types))
    else .error .unhashable
  else .ok false

/-- The type for which distinct scalars stand. -/
def ofScalars (scalars : List PrimitiveType) (nullable : Bool) (owner path : Text) :
    Except Failure TypeDescriptor :=
  match scalars with
  | [] => .ok (TypeDescriptor.any.withNullable nullable)
  | [scalar] => .ok (.scalar scalar nullable)
  | scalars =>
      if maxUnionArity < scalars.length then
        .error (.resolution ⟨.tooManyAlternatives scalars.length, owner, path⟩)
      else .ok (.unionOf scalars nullable)

/-- The type for which a list of type names stands. -/
def collapse (table : MemberTable) (types : List Json) (required : Bool)
    (owner path : Text) : Except Failure TypeDescriptor := do
  let nullable := !required || decide (.text "null" ∈ types)
  if ← (namesEveryType types).mapError .misuse then
    return TypeDescriptor.any.withNullable nullable
  else
    match ← (collectScalars table [] types).mapError .misuse with
    | none => return TypeDescriptor.any.withNullable nullable
    | some scalars => ofScalars scalars nullable owner path

end ProtocolBindings.Resolve
