import ProtocolBindings.Decimal.Literal
import ProtocolBindings.Json.Basic
import ProtocolBindings.Text.Quoted

/-!
# JSON texts in ASCII

Values are written with a space after each comma and colon.  In a text the
double quote, the backslash and the common controls have short escapes; every
other symbol that is not printable ASCII is written by its UTF-16 units.
-/

namespace ProtocolBindings.Json

/-- The escape of one UTF-16 unit. -/
def unitEscape (unit : Nat) : List Char :=
  '\\' :: 'u' :: Text.hexDigits 4 unit

/-- How a character is written inside a JSON text. -/
def encodeCharacter (character : Char) : List Char :=
  let point := character.toNat
  if character = '"' || character = '\\' then ['\\', character]
  else if character = '\n' then ['\\', 'n']
  else if character = '\r' then ['\\', 'r']
  else if character = '\t' then ['\\', 't']
  else if character = '\x08' then ['\\', 'b']
  else if character = '\x0c' then ['\\', 'f']
  else if 32 ≤ point && point < 127 then [character]
  else if point < 0x10000 then unitEscape point
  else
    unitEscape (0xD800 + (point - 0x10000) / 0x400) ++
      unitEscape (0xDC00 + (point - 0x10000) % 0x400)

/-- How a symbol is written inside a JSON text. -/
def encodeSymbol : Symbol → List Char
  | .char character => encodeCharacter character
  | .half offset => unitEscape (Symbol.half offset).point

/-- A text between double quotes. -/
def encodeText (text : Text) : String :=
  String.ofList ('"' :: text.flatMap encodeSymbol ++ ['"'])

/-- A fraction, with the full names of the numbers that are not finite. -/
def encodeNumber : Decimal.Binary64 → String
  | .finite negative significand exponent =>
      Decimal.Binary64.finiteLiteral negative significand exponent
  | .infinite negative => if negative then "-Infinity" else "Infinity"
  | .notANumber => "NaN"

mutual

/-- The JSON text of a value. -/
def encode : Json → String
  | .null => "null"
  | .bool value => if value then "true" else "false"
  | .integer value => Decimal.integerLiteral value
  | .number value => encodeNumber value
  | .text value => encodeText value
  | .array items => "[" ++ String.intercalate ", " (encodeItems items) ++ "]"
  | .object members => "\x7b" ++ String.intercalate ", " (encodeMembers members) ++ "\x7d"

/-- The JSON texts of a list of values. -/
def encodeItems : List Json → List String
  | [] => []
  | item :: items => encode item :: encodeItems items

/-- The JSON texts of a list of members. -/
def encodeMembers : List (Text × Json) → List String
  | [] => []
  | (key, value) :: members =>
      (encodeText key ++ ": " ++ encode value) :: encodeMembers members

end

end ProtocolBindings.Json
