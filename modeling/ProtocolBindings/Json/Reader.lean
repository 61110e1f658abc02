import ProtocolBindings.Decimal.Literal
import ProtocolBindings.Json.Basic
import ProtocolBindings.Text.Basic

/-!
# Reading JSON texts

A strict reader of JSON texts that also knows the names of the numbers that are
not finite.  A number with a fraction or an exponent is a binary64 number, every
other one is whole.  A key that is repeated keeps its first place and takes its
last value.
-/

namespace ProtocolBindings.Json

/-- Why a text is not read. -/
inductive ReadFailure where
  /-- The text is not JSON. -/
  | malformed
  /-- A whole number has more digits than are converted. -/
  | tooManyDigits
deriving DecidableEq, Repr

/-- Space between the parts of a JSON text. -/
def isSpace (character : Char) : Bool :=
  character == ' ' || character == '\t' || character == '\n' || character == '\r'

/-- A text without the space in front. -/
def skipSpace (characters : List Char) : List Char := characters.dropWhile isSpace

/-- The digits in front of a text, and the rest. -/
def spanDigits (characters : List Char) : List Char × List Char :=
  characters.span Char.isDigit

/-- The number that decimal digits denote. -/
def digitsValue (digits : List Char) : Nat :=
  digits.foldl (fun value digit => 10 * value + (digit.toNat - '0'.toNat)) 0

/-- The digits after a decimal point, if a fraction follows. -/
def readFraction : List Char → Option (List Char × List Char)
  | '.' :: rest =>
      match spanDigits rest with
      | ([], _) => none
      | (digits, rest) => some (digits, rest)
  | _ => none

/-- The exponent, if one follows. -/
def readExponent : List Char → Option (Int × List Char)
  | mark :: rest =>
      if mark = 'e' || mark = 'E' then
        let (negative, rest) := match rest with
          | '-' :: rest => (true, rest)
          | '+' :: rest => (false, rest)
          | rest => (false, rest)
        match spanDigits rest with
        | ([], _) => none
        | (digits, rest) =>
            let value : Int := digitsValue digits
            some (if negative then -value else value, rest)
      else none
  | [] => none

/-- The digits before the point: a zero alone, or digits that start with another. -/
def readWhole : List Char → Option (List Char × List Char)
  | '0' :: rest => some (['0'], rest)
  | characters =>
      match spanDigits characters with
      | ([], _) => none
      | (digits, rest) => some (digits, rest)

/-- A number whose sign has been read. -/
def readUnsigned (negative : Bool) (characters : List Char) :
    Except ReadFailure (Json × List Char) :=
  match readWhole characters with
  | none => .error .malformed
  | some (whole, rest) =>
      let (fraction, afterFraction) := (readFraction rest).getD ([], rest)
      let exponent := readExponent afterFraction
      let afterNumber := (exponent.map Prod.snd).getD afterFraction
      if fraction.isEmpty && exponent.isNone then
        if Decimal.maxWholeDigits < whole.length then .error .tooManyDigits
        else
          let value : Int := digitsValue whole
          .ok (.integer (if negative then -value else value), afterNumber)
      else
        let scale := ((exponent.map Prod.fst).getD 0) - (fraction.length : Int)
        let number :=
          Decimal.Binary64.ofDecimal negative (digitsValue (whole ++ fraction)) scale
        .ok (.number number, afterNumber)

/-- The value of a hexadecimal digit. -/
def hexValue (character : Char) : Option Nat :=
  let point := character.toNat
  if character.isDigit then some (point - 48)
  else if 97 ≤ point && point ≤ 102 then some (point - 87)
  else if 65 ≤ point && point ≤ 70 then some (point - 55)
  else none

/-- Four hexadecimal digits: a UTF-16 unit. -/
def readUnit : List Char → Option (Nat × List Char)
  | first :: second :: third :: fourth :: rest => do
      let a ← hexValue first
      let b ← hexValue second
      let c ← hexValue third
      let d ← hexValue fourth
      return (((a * 16 + b) * 16 + c) * 16 + d, rest)
  | _ => none

/-- The second half of a pair, if its escape comes next. -/
def readSecondHalf : List Char → Option (Nat × List Char)
  | '\\' :: 'u' :: rest => do
      let (unit, rest) ← readUnit rest
      if 0xDC00 ≤ unit && unit < 0xE000 then return (unit, rest) else none
  | _ => none

/-- The symbol of a UTF-16 unit that is read, together with the unit that follows it
if the two are a pair. -/
def readSymbol (characters : List Char) : Option (Symbol × List Char) := do
  let (unit, rest) ← readUnit characters
  if 0xD800 ≤ unit && unit < 0xDC00 then
    match readSecondHalf rest with
    | some (second, rest) =>
        return (.char (Char.ofNat (0x10000 + (unit - 0xD800) * 0x400 + (second - 0xDC00))), rest)
    | none => return (.ofPoint unit, rest)
  else return (.ofPoint unit, rest)

/-- The character of a one-letter escape. -/
def shortEscape (letter : Char) : Option Char :=
  match letter with
  | '"' => some '"'
  | '\\' => some '\\'
  | '/' => some '/'
  | 'b' => some '\x08'
  | 'f' => some '\x0c'
  | 'n' => some '\n'
  | 'r' => some '\r'
  | 't' => some '\t'
  | _ => none

/-- The rest of a text after its opening quote.  Each round reads at least one
character, so as many rounds as there are characters are enough. -/
def readTextBody : Nat → Text → List Char → Except ReadFailure (Text × List Char)
  | 0, _, _ => .error .malformed
  | rounds + 1, read, characters =>
      match characters with
      | '"' :: rest => .ok (read.reverse, rest)
      | '\\' :: 'u' :: rest =>
          match readSymbol rest with
          | some (symbol, rest) => readTextBody rounds (symbol :: read) rest
          | none => .error .malformed
      | '\\' :: letter :: rest =>
          match shortEscape letter with
          | some character => readTextBody rounds (.char character :: read) rest
          | none => .error .malformed
      | character :: rest =>
          if character.toNat < 32 || character = '\\' then .error .malformed
          else readTextBody rounds (.char character :: read) rest
      | [] => .error .malformed

/-- A text whose opening quote has been read. -/
def readText (characters : List Char) : Except ReadFailure (Text × List Char) :=
  readTextBody (characters.length + 1) [] characters

/-- A value without parts: a name or a number. -/
def readAtom (characters : List Char) : Except ReadFailure (Json × List Char) :=
  let named := [("null", Json.null), ("true", .bool true), ("false", .bool false),
    ("NaN", .number .notANumber), ("Infinity", .number (.infinite false)),
    ("-Infinity", .number (.infinite true))]
  match named.findSome? fun (word, value) =>
      (Text.afterStart? word.toList characters).map fun rest => (value, rest) with
  | some read => .ok read
  | none => match characters with
    | '-' :: rest => readUnsigned true rest
    | characters => readUnsigned false characters

mutual

/-- A value, whose first character is next.  Every call reads at least one
character before the next one, so `rounds` need not exceed the length. -/
def readValue : Nat → List Char → Except ReadFailure (Json × List Char)
  | 0, _ => .error .malformed
  | rounds + 1, characters =>
      match characters with
      | '"' :: rest => do
          let (value, rest) ← readText rest
          return (.text value, rest)
      | '[' :: rest =>
          match skipSpace rest with
          | ']' :: rest => return (.array [], rest)
          | rest => do
              let (items, rest) ← readItems rounds rest
              return (.array items, rest)
      | '\x7b' :: rest =>
          match skipSpace rest with
          | '\x7d' :: rest => return (.object [], rest)
          | rest => do
              let (members, rest) ← readMembers rounds [] rest
              return (.object members, rest)
      | characters => readAtom characters

/-- The items of an array up to its closing bracket. -/
def readItems : Nat → List Char → Except ReadFailure (List Json × List Char)
  | 0, _ => .error .malformed
  | rounds + 1, characters => do
      let (item, rest) ← readValue rounds characters
      match skipSpace rest with
      | ']' :: rest => return ([item], rest)
      | ',' :: rest => do
          let (items, rest) ← readItems rounds (skipSpace rest)
          return (item :: items, rest)
      | _ => .error .malformed

/-- The members of an object up to its closing bracket, after those read before. -/
def readMembers : Nat → List (Text × Json) → List Char →
    Except ReadFailure (List (Text × Json) × List Char)
  | 0, _, _ => .error .malformed
  | rounds + 1, members, characters =>
      match characters with
      | '"' :: rest => do
          let (key, rest) ← readText rest
          match skipSpace rest with
          | ':' :: rest => do
              let (value, rest) ← readValue rounds (skipSpace rest)
              let members := assign key value members
              match skipSpace rest with
              | '\x7d' :: rest => return (members, rest)
              | ',' :: rest => readMembers rounds members (skipSpace rest)
              | _ => .error .malformed
          | _ => .error .malformed
      | _ => .error .malformed

end

/-- The value of a JSON text, which may have space around it and nothing else. -/
def read (text : String) : Except ReadFailure Json := do
  let characters := skipSpace text.toList
  let (value, rest) ← readValue (characters.length + 1) characters
  if (skipSpace rest).isEmpty then return value else .error .malformed

end ProtocolBindings.Json
