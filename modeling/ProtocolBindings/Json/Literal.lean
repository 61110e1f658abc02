import ProtocolBindings.Decimal.Literal
import ProtocolBindings.Json.Basic
import ProtocolBindings.Text.Quoted

/-!
# Display of JSON values

The text form of a value, as it enters generated code, labels and messages: a
text stands for itself, every other value is shown as a literal of the
generated language, in which null is `None` and texts are quoted.
-/

namespace ProtocolBindings.Json

/-- The literal of a truth value. -/
def boolLiteral (value : Bool) : String := if value then "True" else "False"

/-- Literals separated by commas between an opening and a closing bracket. -/
def enclosed (opening closing : Char) (parts : List Text) : Text :=
  .char opening :: List.intercalate ", " parts ++ [.char closing]

mutual

/-- The literal of a value in the generated language. -/
def literal : Json → Text
  | .null => "None"
  | .bool value => boolLiteral value
  | .integer value => Decimal.integerLiteral value
  | .number value => value.literal
  | .text value => Text.quoted value
  | .array items => enclosed '[' ']' (literalItems items)
  | .object members => enclosed '\x7b' '\x7d' (literalMembers members)

/-- The literals of a list of values. -/
def literalItems : List Json → List Text
  | [] => []
  | item :: items => literal item :: literalItems items

/-- The literals of a list of members. -/
def literalMembers : List (Text × Json) → List Text
  | [] => []
  | (key, value) :: members =>
      (Text.quoted key ++ ": " ++ literal value) :: literalMembers members

end

/-- The text form of a value. -/
def display : Json → Text
  | .text value => value
  | value => literal value

@[simp] theorem display_text (value : Text) : display (.text value) = value := rfl

end ProtocolBindings.Json
