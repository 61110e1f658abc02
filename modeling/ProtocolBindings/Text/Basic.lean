/-!
# Texts

A text is a list of symbols.  JSON can write one half of a surrogate pair without
the other, so that a symbol is a character or such a half.  A text with a half in
it can be held and compared, but it cannot be encoded.

A class of characters beyond ASCII is given by the increasing list of the code
points at which membership changes: the first boundary opens the class, the
second closes it, and so on.  Where characters in a row have their images in a
row, one run gives them all.
-/

namespace ProtocolBindings

/-- A character, or half of a surrogate pair that stands alone. -/
inductive Symbol where
  | char (value : Char)
  /-- The half whose code point is so far above that of the first half. -/
  | half (offset : Fin 0x800)
deriving DecidableEq, Repr

namespace Symbol

instance : Coe Char Symbol := ⟨char⟩

/-- The code point of a symbol. -/
def point : Symbol → Nat
  | .char value => value.toNat
  | .half offset => 0xD800 + offset.val

/-- The symbol of a code point, or of a UTF-16 unit that stands alone. -/
def ofPoint (point : Nat) : Symbol :=
  if paired : 0xD800 ≤ point ∧ point < 0xE000 then .half ⟨point - 0xD800, by omega⟩
  else .char (Char.ofNat point)

/-- Whether a symbol is a character that passes a test. -/
def is (test : Char → Bool) : Symbol → Bool
  | .char value => test value
  | .half _ => false

/-- The character that a symbol is. -/
def char? : Symbol → Option Char
  | .char value => some value
  | .half _ => none

/-- The half of a unit has the code point of the unit. -/
theorem point_ofPoint_of_half {unit : Nat} (low : 0xD800 ≤ unit) (high : unit < 0xE000) :
    (ofPoint unit).point = unit := by
  simp only [ofPoint, low, high, and_self, dite_true, point]
  omega

/-- The code points of characters leave those of the halves out. -/
theorem toNat_valid (character : Char) :
    character.toNat < 0xD800 ∨ 0xDFFF < character.toNat ∧ character.toNat < 0x110000 :=
  character.valid

theorem point_lt (symbol : Symbol) : symbol.point < 0x110000 := by
  cases symbol with
  | char character =>
      have valid := toNat_valid character
      simp only [point]
      omega
  | half offset =>
      simp only [point]
      omega

/-- A symbol is had back from its code point. -/
theorem ofPoint_point (symbol : Symbol) : ofPoint symbol.point = symbol := by
  cases symbol with
  | char character =>
      have valid := toNat_valid character
      have apart : ¬(0xD800 ≤ character.toNat ∧ character.toNat < 0xE000) := by omega
      rw [point, ofPoint, dif_neg apart, Char.ofNat_toNat]
  | half offset =>
      have between : 0xD800 ≤ (half offset).point ∧ (half offset).point < 0xE000 := by
        simp only [point]
        omega
      rw [ofPoint, dif_pos between]
      simp [point]

end Symbol

/-- A list of symbols. -/
abbrev Text := List Symbol

namespace Text

/-- Texts are compared symbol by symbol. -/
instance : LawfulBEq Text := inferInstance

/-- The text of some characters. -/
def ofCharacters (characters : List Char) : Text := characters.map .char

/-- The text of a string. -/
def ofString (string : String) : Text := ofCharacters string.toList

instance : Coe String Text := ⟨ofString⟩

/-- The characters of a text, unless it has a half. -/
def characters? (text : Text) : Option (List Char) := text.mapM Symbol.char?

/-- The string of a text, unless it has a half. -/
def string? (text : Text) : Option String := text.characters?.map String.ofList

/-- The characters of a text of characters are those. -/
@[simp] theorem characters?_ofCharacters (characters : List Char) :
    characters? (ofCharacters characters) = some characters := by
  induction characters with
  | nil => rfl
  | cons character characters ih =>
      simp only [characters?, ofCharacters] at ih
      simp [characters?, ofCharacters, Symbol.char?, ih]

/-- The string of the text of a string is that string. -/
@[simp] theorem string?_ofString (string : String) : string? (ofString string) = some string := by
  simp [string?, ofString]

/-- Only a text of characters has characters. -/
theorem characters?_eq_some_iff {text : Text} {characters : List Char} :
    text.characters? = some characters ↔ text = ofCharacters characters := by
  constructor
  · intro found
    induction text generalizing characters with
    | nil => cases found; rfl
    | cons symbol text ih =>
        simp only [characters?, List.mapM_cons, Option.bind_eq_bind, Option.bind_eq_some_iff]
          at found
        obtain ⟨character, first, others, rest, same⟩ := found
        cases same
        cases symbol with
        | half offset => cases first
        | char value => cases first; rw [ih rest]; rfl
  · rintro rfl
    exact characters?_ofCharacters characters

/-- Only the text of a string has a string. -/
theorem string?_eq_some_iff {text : Text} {string : String} :
    text.string? = some string ↔ text = ofString string := by
  constructor
  · intro found
    obtain ⟨characters, known, same⟩ := Option.map_eq_some_iff.mp found
    rw [characters?_eq_some_iff.mp known, ← same, ofString, String.toList_ofList]
  · rintro rfl
    exact string?_ofString string

/-! ## Parts

A part may stand at the start of a text or anywhere in it.  Its first occurrence is replaced
once, or a symbol is replaced wherever it stands. -/

section

variable {α : Type} [DecidableEq α]

/-- Whether one list occurs in another without a gap. -/
def occursIn (part : List α) : List α → Bool
  | [] => part.isEmpty
  | symbol :: rest => part.isPrefixOf (symbol :: rest) || occursIn part rest

/-- The rest of a list that starts with a part. -/
def afterStart? (part list : List α) : Option (List α) :=
  if part.isPrefixOf list then some (list.drop part.length) else none

/-- The list with the first occurrence of a part replaced, if the part occurs. -/
def replaceFirst? (part replacement : List α) : List α → Option (List α)
  | [] => if part.isEmpty then some replacement else none
  | symbol :: rest =>
      if part.isPrefixOf (symbol :: rest) then
        some (replacement ++ (symbol :: rest).drop part.length)
      else (replaceFirst? part replacement rest).map (symbol :: ·)

/-- The list with every occurrence of one symbol replaced by another. -/
def replaceEach (old new : α) (symbols : List α) : List α :=
  symbols.map fun symbol => if symbol = old then new else symbol

end

/-! ## Runs of code points -/

/-- Whether a code point lies inside a class given by its boundaries, that is,
whether an odd number of boundaries lies at or below it. -/
def insideRuns : List Nat → Nat → Bool
  | [], _ => false
  | boundary :: boundaries, point =>
      if point < boundary then false else !insideRuns boundaries point

/-- Every `step`-th code point from `first` to `last` is mapped to the code
point as far above `image` as it is above `first`. -/
structure ImageRun where
  first : Nat
  last : Nat
  step : Nat
  image : Nat

/-- The image of a code point under the first run that holds it. -/
def imageIn (runs : List ImageRun) (point : Nat) : Nat :=
  match runs.find? (fun run =>
      run.first ≤ point && point ≤ run.last && (point - run.first) % run.step == 0) with
  | some run => run.image + (point - run.first)
  | none => point

end Text

end ProtocolBindings
