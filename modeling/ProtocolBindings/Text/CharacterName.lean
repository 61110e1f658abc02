import ProtocolBindings.Text.NameTable
import ProtocolBindings.Text.Basic

/-!
# Names of characters

A character can be called by its name or by another name that Unicode lists for it,
in capital or small letters.  Ideographs are named by their code points, and
syllables of Hangul by their sounds, in capital letters only.
-/

namespace ProtocolBindings.Text

/-- The table of names while it is read. -/
structure NameReading where
  /-- What was read of the current name, last character first. -/
  name : List Char := []
  /-- The first digit of the number of characters to drop, if it was read. -/
  digit : Option Nat := none
  /-- Whether the name that is sought was read. -/
  found : Bool := false

/-- The digit, to the base of 26, for which a small letter stands. -/
def letterDigit (letter : Char) : Nat := letter.toNat - 'a'.toNat

/-- Read one character of the table, the name that is sought being given last
character first. -/
def NameReading.step (sought : List Char) (reading : NameReading) (character : Char) :
    NameReading :=
  if character == '\n' then reading
  else if character.isLower then
    match reading.digit with
    | none =>
        { reading with
          digit := some (letterDigit character)
          found := reading.found || reading.name = sought }
    | some digit =>
        { reading with
          name := reading.name.drop (26 * digit + letterDigit character)
          digit := none }
  else { reading with name := character :: reading.name }

/-- Whether the table has a name. -/
def isListedName (name : List Char) : Bool :=
  let sought := (name.map Char.toUpper).reverse
  let reading := nameTable.toList.foldl (NameReading.step sought) {}
  !name.isEmpty && (reading.found || reading.name = sought)

/-- The first and last code points of the ideographs that are named by them. -/
def ideographRanges : List (Nat × Nat) :=
  [(0x3400, 0x4DBF), (0x4E00, 0x9FFF), (0x20000, 0x2A6DF), (0x2A700, 0x2B738),
    (0x2B740, 0x2B81D), (0x2B820, 0x2CEA1), (0x2CEB0, 0x2EBE0), (0x30000, 0x3134A)]

/-- The value of a hexadecimal digit in figures and capital letters. -/
def capitalHexValue? (digit : Char) : Option Nat :=
  if digit.isDigit then some (digit.toNat - '0'.toNat)
  else if 'A' ≤ digit && digit ≤ 'F' then some (digit.toNat - 'A'.toNat + 10)
  else none

/-- Whether a name is that of an ideograph, with four or five digits. -/
def isIdeographName (name : List Char) : Bool :=
  match afterStart? "CJK UNIFIED IDEOGRAPH-".toList name with
  | none => false
  | some digits =>
      match digits.mapM capitalHexValue? with
      | none => false
      | some values =>
          let point := values.foldl (fun point value => 16 * point + value) 0
          (values.length == 4 || values.length == 5) &&
            ideographRanges.any fun (first, last) => first ≤ point && point ≤ last

/-- The sounds that start a syllable. -/
def initialSounds : List String :=
  ["G", "GG", "N", "D", "DD", "R", "M", "B", "BB", "S", "SS", "", "J", "JJ", "C", "K", "T",
    "P", "H"]

/-- The sounds inside a syllable. -/
def medialSounds : List String :=
  ["A", "AE", "YA", "YAE", "EO", "E", "YEO", "YE", "O", "WA", "WAE", "OE", "YO", "U", "WEO",
    "WE", "WI", "YU", "EU", "YI", "I"]

/-- The sounds that end a syllable. -/
def finalSounds : List String :=
  ["", "G", "GG", "GS", "N", "NJ", "NH", "D", "L", "LG", "LM", "LB", "LS", "LT", "LP", "LH",
    "M", "B", "BS", "S", "SS", "NG", "J", "C", "K", "T", "P", "H"]

/-- The rest of a text after the longest of some sounds that it starts with. -/
def afterLongest? (sounds : List String) (text : List Char) : Option (List Char) :=
  (sounds.filterMap fun sound => afterStart? sound.toList text).foldl
    (fun shortest rest => match shortest with
      | none => some rest
      | some found => if rest.length < found.length then some rest else some found) none

/-- Whether a name is that of a syllable of Hangul. -/
def isSyllableName (name : List Char) : Bool :=
  let rest := do
    let sounds ← afterStart? "HANGUL SYLLABLE ".toList name
    let sounds ← afterLongest? initialSounds sounds
    let sounds ← afterLongest? medialSounds sounds
    afterLongest? finalSounds sounds
  rest == some []

/-- Whether a name is that of a character. -/
def isCharacterName (name : List Char) : Bool :=
  isSyllableName name || isIdeographName name || isListedName name

end ProtocolBindings.Text
