import ProtocolBindings.Text.Basic
import ProtocolBindings.Text.Printable

/-!
# Quoted texts

A text in quotes, as messages and literals show it: in single quotes, or in
double quotes when it has a single quote and no double one.  The quote and the
backslash are escaped by a backslash, tab and the two line ends by their
letters, every other symbol that is not printable by its code point.
-/

namespace ProtocolBindings.Text

/-- The lower-case hexadecimal digit of a number below sixteen. -/
def hexDigit (value : Nat) : Char :=
  if value < 10 then Char.ofNat (48 + value) else Char.ofNat (87 + value)

/-- The last `width` hexadecimal digits of a number. -/
def hexDigits : Nat → Nat → List Char
  | 0, _ => []
  | width + 1, value => hexDigits width (value / 16) ++ [hexDigit (value % 16)]

/-- The escape of a code point, with two, four or eight digits. -/
def codePointEscape (point : Nat) : List Char :=
  if point < 0x100 then '\\' :: 'x' :: hexDigits 2 point
  else if point < 0x10000 then '\\' :: 'u' :: hexDigits 4 point
  else '\\' :: 'U' :: hexDigits 8 point

/-- How a character is shown between two of the given quotes. -/
def quotedCharacter (quote character : Char) : List Char :=
  if character = quote || character = '\\' then ['\\', character]
  else if character = '\t' then ['\\', 't']
  else if character = '\n' then ['\\', 'n']
  else if character = '\r' then ['\\', 'r']
  else if isPrintable character then [character]
  else codePointEscape character.toNat

/-- How a symbol is shown between two of the given quotes; a half is not printable. -/
def quotedSymbol (quote : Char) : Symbol → List Char
  | .char character => quotedCharacter quote character
  | .half offset => codePointEscape (Symbol.half offset).point

/-- The quote used for a text: the single one, unless only it occurs inside. -/
def quoteFor (text : Text) : Char :=
  if text.contains '\'' && !text.contains '"' then '"' else '\''

/-- A text in quotes. -/
def quoted (text : Text) : Text :=
  let quote := quoteFor text
  ofCharacters (quote :: text.flatMap (quotedSymbol quote) ++ [quote])

/-- How a symbol is shown where no half can stand: a half by its escape. -/
def legibleSymbol : Symbol → List Char
  | .char character => [character]
  | .half offset => codePointEscape (Symbol.half offset).point

/-- A text as it is shown where no half can stand. -/
def legible (text : Text) : String := String.ofList (text.flatMap legibleSymbol)

end ProtocolBindings.Text
