import ProtocolBindings.Naming
import ProtocolBindings.Text.Lines
import ProtocolBindings.Text.Word

/-!
# Identifiers of the generated code

Any text is turned into an identifier that the generated code may bind: every
symbol that is no word character becomes an underscore, a digit does not come
first, and a reserved name gets an underscore at its end.
-/

namespace ProtocolBindings.Bindings

/-- The keywords of the generated language. -/
def keywords : List String :=
  ["False", "None", "True", "and", "as", "assert", "async", "await", "break", "class",
    "continue", "def", "del", "elif", "else", "except", "finally", "for", "from", "global",
    "if", "import", "in", "is", "lambda", "nonlocal", "not", "or", "pass", "raise", "return",
    "try", "while", "with", "yield"]

/-- Names that a class body uses itself and must not bind. -/
def bodyHelpers : List String := ["field", "config"]

/-- Whether the body of a generated class must not bind a name. -/
def isReserved (name : Text) : Bool :=
  (keywords ++ bodyHelpers).any fun word => name = Text.ofString word

/-- Every symbol that is no word character becomes an underscore. -/
def wordCharacters (name : Text) : Text :=
  name.map fun symbol => if symbol.is Text.isWord then symbol else '_'

/-- An underscore in front of a text that is empty or starts with a digit. -/
def startWithLetter (name : Text) : Text :=
  match name with
  | [] => "_"
  | first :: _ => if first.is Text.isDigit then '_' :: name else name

/-- The underscores that make a name special. -/
def specialMark : Text := "__"

/-- Names that start with two underscores and do not end with two are changed
inside a class, so their underscores are moved to the end. -/
def avoidMangling (name : Text) : Text :=
  if specialMark.isPrefixOf name && !specialMark.isSuffixOf name then
    name.dropWhile (· = .char '_') ++ "_"
  else name

/-- The identifier for a name. -/
def identifier (name : Text) : Text :=
  Naming.escape isReserved (avoidMangling (startWithLetter (wordCharacters name)))

end ProtocolBindings.Bindings
