import ProtocolBindings.Decimal.Literal
import ProtocolBindings.Grammar.Token

/-!
# Number literals of the generated language

Where a number of the generated language ends.  It must not run into a name, and a
decimal whole number must not be longer than what is converted.
-/

namespace ProtocolBindings.Grammar

/-- The rest after digits of a kind, single underscores between them; at least
one digit is needed. -/
def afterDigits (isDigit : Char → Bool) : List Char → Option (List Char)
  | [] => none
  | first :: rest =>
      if isDigit first then
        match rest with
        | '_' :: more => afterDigits isDigit more
        | next :: more =>
            if isDigit next then afterDigits isDigit (next :: more) else some (next :: more)
        | [] => some []
      else none

/-- Words that may follow a number without space. -/
def wordsAfterNumber : List String :=
  ["and", "else", "for", "if", "in", "is", "not", "or"]

/-- The rest after a number, which must not run into a name. -/
def endNumber (rest : List Char) : Option (List Char) :=
  match rest with
  | [] => some []
  | next :: _ =>
      if wordsAfterNumber.any fun word => word.toList.isPrefixOf rest then some rest
      else if isNameCharacter next then none
      else some rest

/-- The rest after an imaginary unit that may end a number. -/
def afterImaginary (rest : List Char) : Option (List Char) :=
  match rest with
  | 'j' :: more => endNumber more
  | 'J' :: more => endNumber more
  | rest => endNumber rest

/-- The rest after an exponent that may follow. -/
def afterExponent (rest : List Char) : Option (List Char) :=
  match rest with
  | mark :: more =>
      if mark == 'e' || mark == 'E' then
        match more with
        | '+' :: digits => (afterDigits Char.isDigit digits).bind afterImaginary
        | '-' :: digits => (afterDigits Char.isDigit digits).bind afterImaginary
        | next :: _ =>
            if next.isDigit then (afterDigits Char.isDigit more).bind afterImaginary
            else endNumber rest
        | [] => endNumber rest
      else afterImaginary rest
  | [] => some []

/-- The rest after the point of a number. -/
def afterPoint (rest : List Char) : Option (List Char) :=
  match rest with
  | next :: _ =>
      if next.isDigit then (afterDigits Char.isDigit rest).bind afterExponent
      else afterExponent rest
  | [] => some []

/-- A hexadecimal digit. -/
def isHexDigit (character : Char) : Bool :=
  character.isDigit || ('a' ≤ character && character ≤ 'f') ||
    ('A' ≤ character && character ≤ 'F')

/-- An octal digit. -/
def isOctalDigit (character : Char) : Bool := '0' ≤ character && character ≤ '7'

/-- A binary digit. -/
def isBinaryDigit (character : Char) : Bool := character == '0' || character == '1'

/-- The rest after digits of another base, an underscore before them allowed. -/
def afterBase (isDigit : Char → Bool) (rest : List Char) : Option (List Char) :=
  let digits := match rest with
    | '_' :: more => more
    | digits => digits
  (afterDigits isDigit digits).bind fun rest => match rest with
    | next :: _ => if next.isDigit then none else endNumber rest
    | [] => some []

/-- The rest after a decimal number.  One that starts with a zero and has another
digit must be a fraction or imaginary. -/
def afterDecimal (characters : List Char) : Option (List Char) := do
  let rest ← afterDigits Char.isDigit characters
  let whole := characters.take (characters.length - rest.length)
  let padded := whole.head? == some '0' && whole.any fun digit => digit != '0' && digit != '_'
  match rest with
  | '.' :: more => afterPoint more
  | next :: _ =>
      let marksNumber := next == 'e' || next == 'E' || next == 'j' || next == 'J'
      if padded && !marksNumber then none else afterExponent rest
  | [] => if padded then none else some []

/-- The rest after a number that starts with a digit. -/
def afterNumber (characters : List Char) : Option (List Char) :=
  match characters with
  | '0' :: mark :: rest =>
      if mark == 'x' || mark == 'X' then afterBase isHexDigit rest
      else if mark == 'o' || mark == 'O' then afterBase isOctalDigit rest
      else if mark == 'b' || mark == 'B' then afterBase isBinaryDigit rest
      else afterDecimal characters
  | characters => afterDecimal characters

/-- Whether a number is a decimal whole number of too many digits.  Zeros alone are
never too many. -/
def isTooLong (written : List Char) : Bool :=
  written.head? != some '0' &&
    written.all (fun character => character.isDigit || character == '_') &&
    Decimal.maxWholeDigits < (written.filter Char.isDigit).length

/-- Whether a number is imaginary. -/
def isImaginary (written : List Char) : Bool :=
  written.getLast? == some 'j' || written.getLast? == some 'J'

/-- The token of a number whose rest is given, and the rest. -/
def numberBefore (characters rest : List Char) : Option (Token × List Char) :=
  let written := characters.take (characters.length - rest.length)
  if isTooLong written then none else some (.number (isImaginary written), rest)

/-- A number that starts with a digit or a point, and the rest. -/
def readNumber (characters : List Char) : Option (Token × List Char) := do
  let rest ← match characters with
    | '.' :: fraction => afterPoint fraction
    | _ => afterNumber characters
  numberBefore characters rest

end ProtocolBindings.Grammar
