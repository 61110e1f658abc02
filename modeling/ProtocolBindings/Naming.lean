import ProtocolBindings.Text.Basic
import ProtocolBindings.Text.UpperCase

/-!
# Names

The names that are formed from the names of a schema: the name of an entity
synthesized for a property, the label of an enumeration value, the response of a
request, and the escaped form of a reserved word.
-/

namespace ProtocolBindings.Naming

/-- A text whose first symbol is in upper case. -/
def capitalize : Text → Text
  | [] => []
  | first :: rest => Text.upperSymbol first ++ rest

/-- The name of an entity synthesized for a property: the name of the enclosing
entity followed by the capitalized name of the property. -/
def synthesized (enclosing property : Text) : Text :=
  enclosing ++ capitalize property

/-- Names of a schema that collide with words of target languages. -/
def reservedWords : List Text :=
  ["class", "continue", "default", "enum", "goto", "interface"]

/-- Mark a reserved name, or one reserved by the given test, by an underscore at
its end. -/
def escape (alsoReserved : Text → Bool) (name : Text) : Text :=
  if reservedWords.contains name || alsoReserved name then name ++ "_" else name

/-- Put an underscore before each capital letter of ASCII. -/
def separateCapitals (text : Text) : Text :=
  text.flatMap fun symbol =>
    if symbol.is Char.isUpper then [.char '_', symbol] else [symbol]

/-- A word that separating the capitals pulls apart. -/
def splitWord : Text := "U_T_C"

/-- The proper form of the split word. -/
def properWord : Text := "UTC"

/-- The label of an enumeration value in upper case with underscores, and whether
the value cannot be had back from its label by the plain rule.  A value without
small letters of ASCII is its own label. -/
def label (value : Text) : Text × Bool :=
  if value.any (Symbol.is Char.isLower) then
    let spread := Text.replaceEach (.char ' ') (.char '_') (Text.upper (separateCapitals value))
    match Text.replaceFirst? splitWord properWord spread with
    | some proper => (proper, true)
    | none => (spread, false)
  else (value, true)

/-- The end of a request's name. -/
def requestSuffix : Text := "Request"

/-- The end of a response's name. -/
def responseSuffix : Text := "Response"

/-- The beginning of a name that ends with the given text. -/
def withoutEnd? (ending name : Text) : Option Text :=
  if ending.isSuffixOf name then some (name.take (name.length - ending.length)) else none

/-- The name of the response to a request, if the name is one of a request. -/
def response? (request : Text) : Option Text :=
  (withoutEnd? requestSuffix request).map (· ++ responseSuffix)

end ProtocolBindings.Naming
