import ProtocolBindings.Bindings.Identifier

/-!
# Spelling of identifiers

The identifier for a name is spelled by one of five rules, which `Spells` states for the
name's word characters.
-/

namespace ProtocolBindings

/-! ## Characters of identifiers -/

namespace Text

theorem isDigit_iff {character : Char} :
    character.isDigit = true ↔ 48 ≤ character.toNat ∧ character.toNat ≤ 57 := by
  simp [Char.isDigit, UInt32.le_iff_toNat_le, ← Char.toNat_val]

theorem isUpper_iff {character : Char} :
    character.isUpper = true ↔ 65 ≤ character.toNat ∧ character.toNat ≤ 90 := by
  have bounds : character.isUpper = decide (65 ≤ character.val ∧ character.val ≤ 90) := rfl
  simp [bounds, UInt32.le_iff_toNat_le, ← Char.toNat_val]

theorem isAlpha_iff {character : Char} :
    character.isAlpha = true ↔ 65 ≤ character.toNat ∧ character.toNat ≤ 90 ∨
      97 ≤ character.toNat ∧ character.toNat ≤ 122 := by
  have letters : character.isAlpha = (character.isUpper || character.isLower) := rfl
  rw [letters, Bool.or_eq_true, isUpper_iff, isLower_iff]

theorem isDigit_of_isAlpha {character : Char} (letter : character.isAlpha = true) :
    isDigit character = false := by
  have low := isAlpha_iff.mp letter
  rw [isDigit, if_pos (by omega), Bool.eq_false_iff, Ne, isDigit_iff]
  omega

/-- Letters and the underscore of ASCII. -/
def isNameStart (character : Char) : Bool := character.isAlpha || character == '_'

/-- Letters, digits and the underscore of ASCII. -/
def isNamePart (character : Char) : Bool := character.isAlphanum || character == '_'

/-- A name starts with whatever can stand in it and is no digit. -/
theorem isNameStart_eq (character : Char) :
    isNameStart character = (isNamePart character && !isDigit character) := by
  cases letter : character.isAlpha with
  | true => simp [isNameStart, isNamePart, Char.isAlphanum, letter, isDigit_of_isAlpha letter]
  | false =>
      by_cases mark : character = '_'
      · rw [mark]
        decide
      · cases digit : character.isDigit with
        | true =>
            have low := isDigit_iff.mp digit
            have counts : isDigit character = true := by rw [isDigit, if_pos (by omega), digit]
            simp [isNameStart, letter, mark, counts]
        | false => simp [isNameStart, isNamePart, Char.isAlphanum, letter, mark, digit]

theorem isNamePart_of_isWord {character : Char} (low : character.toNat < 128)
    (word : isWord character = true) : isNamePart character = true := by
  rw [isWord, if_pos low] at word
  exact word

/-- A text of ASCII is an identifier: a letter or an underscore, and behind it letters,
digits and underscores. -/
def isAsciiIdentifier : Text → Bool
  | [] => false
  | first :: rest => first.is isNameStart && rest.all (Symbol.is isNamePart)

end Text

namespace Bindings

def underscore : Symbol := .char '_'

/-! ## Reserved names -/

/-- The names that no identifier has. -/
def reservedNames : List Text :=
  (keywords ++ bodyHelpers).map Text.ofString ++ Naming.reservedWords

theorem mem_reservedNames_iff {name : Text} :
    name ∈ reservedNames ↔ (Naming.reservedWords.contains name || isReserved name) = true := by
  rw [Bool.or_eq_true, List.contains_iff_mem, isReserved, List.any_eq_true, reservedNames,
    List.mem_append, List.mem_map, or_comm]
  refine or_congr_right (exists_congr fun word => and_congr_right fun _ => ?_)
  rw [decide_eq_true_eq]
  exact eq_comm

/-- A reserved name is made of letters. -/
theorem reservedNames_letters : ∀ name ∈ reservedNames,
    name.head?.any (Symbol.is Char.isAlpha) = true ∧
      name.all (Symbol.is Char.isAlpha) = true := by
  decide +kernel

theorem not_mem_of_underscore {name : Text} (member : underscore ∈ name) :
    name ∉ reservedNames := by
  intro reserved
  have letters := List.all_eq_true.mp (reservedNames_letters name reserved).2
  exact absurd (letters underscore member) (by decide)

/-- A reserved name starts with a letter. -/
theorem exists_letter_of_mem {name : Text} (reserved : name ∈ reservedNames) :
    ∃ first rest, name = first :: rest ∧ first.is Char.isAlpha = true := by
  have letters := (reservedNames_letters name reserved).1
  cases name with
  | nil => cases letters
  | cons first rest => exact ⟨first, rest, rfl, letters⟩

theorem isDigit_of_isAlpha {symbol : Symbol} (letter : symbol.is Char.isAlpha = true) :
    symbol.is Text.isDigit = false := by
  cases symbol with
  | half offset => rfl
  | char value => exact Text.isDigit_of_isAlpha letter

theorem escape_of_mem {name : Text} (reserved : name ∈ reservedNames) :
    Naming.escape isReserved name = name ++ [underscore] := by
  rw [Naming.escape, if_pos (mem_reservedNames_iff.mp reserved)]
  rfl

theorem escape_of_not_mem {name : Text} (free : name ∉ reservedNames) :
    Naming.escape isReserved name = name := by
  rw [Naming.escape, if_neg (mt mem_reservedNames_iff.mpr free)]

/-! ## Names that a class changes -/

theorem specialMark_eq : specialMark = List.replicate 2 underscore := rfl

/-- A class changes names that start with two underscores and do not end with two. -/
def IsMangled (name : Text) : Prop := specialMark <+: name ∧ ¬ specialMark <:+ name

theorem isMangled_iff {name : Text} :
    IsMangled name ↔
      (specialMark.isPrefixOf name && !specialMark.isSuffixOf name) = true := by
  rw [Bool.and_eq_true, List.isPrefixOf_iff_prefix, Bool.not_eq_true', Bool.eq_false_iff, Ne,
    List.isSuffixOf_iff_suffix]
  rfl

instance (name : Text) : Decidable (IsMangled name) := decidable_of_iff _ isMangled_iff.symm

/-- What ends a text and lacks a symbol of it stands behind that symbol. -/
theorem suffix_append_cons_iff {α : Type} {ending before after : List α} {symbol : α}
    (apart : symbol ∉ ending) : ending <:+ before ++ symbol :: after ↔ ending <:+ after := by
  constructor
  · intro ends
    rcases List.suffix_or_suffix_of_suffix ends (List.suffix_append before (symbol :: after)) with
      inside | beyond
    · rcases List.suffix_cons_iff.mp inside with same | behind
      · exact absurd (same ▸ List.mem_cons_self) apart
      · exact behind
    · exact absurd (beyond.subset List.mem_cons_self) apart
  · intro ends
    exact (ends.trans (List.suffix_cons symbol after)).trans (List.suffix_append _ _)

section

variable {marks : Nat} {first : Symbol} {rest : Text}

theorem not_mem_specialMark (letter : first ≠ underscore) : first ∉ specialMark := by
  rw [specialMark_eq]
  exact fun member => letter (List.eq_of_mem_replicate member)

theorem specialMark_prefix_iff (letter : first ≠ underscore) :
    specialMark <+: List.replicate marks underscore ++ first :: rest ↔ 2 ≤ marks := by
  rw [specialMark_eq]
  match marks with
  | 0 =>
      constructor
      · rintro ⟨more, same⟩
        exact absurd (List.cons.inj same).1.symm letter
      · omega
  | 1 =>
      constructor
      · rintro ⟨more, same⟩
        exact absurd (List.cons.inj (List.cons.inj same).2).1.symm letter
      · omega
  | marks + 2 =>
      constructor
      · omega
      · intro _
        exact ⟨List.replicate marks underscore ++ first :: rest, rfl⟩

/-- Whether a class changes a name that starts with underscores. -/
theorem isMangled_append_cons_iff (letter : first ≠ underscore) :
    IsMangled (List.replicate marks underscore ++ first :: rest) ↔
      2 ≤ marks ∧ ¬ specialMark <:+ rest := by
  rw [IsMangled, specialMark_prefix_iff letter,
    suffix_append_cons_iff (not_mem_specialMark letter)]

theorem isMangled_cons {name : Text} (mangled : IsMangled (first :: name)) :
    first = underscore := by
  obtain ⟨rest, same⟩ := mangled.1
  exact (List.cons.inj same).1.symm

theorem not_isMangled_underscore : ¬ IsMangled [underscore] :=
  fun mangled => absurd mangled.1.length_le (by decide)

/-- One underscore is no reason to change a name. -/
theorem not_isMangled_underscore_cons (letter : first ≠ underscore) :
    ¬ IsMangled (underscore :: first :: rest) := by
  intro mangled
  have marked : IsMangled (List.replicate 1 underscore ++ first :: rest) := mangled
  have several := (isMangled_append_cons_iff letter).mp marked
  exact absurd several.1 (by omega)

theorem dropWhile_append_cons (letter : first ≠ underscore) :
    (List.replicate marks underscore ++ first :: rest).dropWhile (· = underscore) =
      first :: rest := by
  rw [List.dropWhile_append_of_pos, List.dropWhile_cons_of_neg]
  · simpa using letter
  · intro symbol member
    simpa using List.eq_of_mem_replicate member

end

/-- A text starts with underscores and goes on with another symbol, if there is one. -/
theorem exists_marks (word : Text) :
    (∃ marks, word = List.replicate marks underscore) ∨
      ∃ marks first rest, word = List.replicate marks underscore ++ first :: rest ∧
        first ≠ underscore := by
  induction word with
  | nil => exact .inl ⟨0, rfl⟩
  | cons symbol word ih =>
      by_cases mark : symbol = underscore
      · rw [mark]
        rcases ih with ⟨marks, rfl⟩ | ⟨marks, first, rest, rfl, letter⟩
        · exact .inl ⟨marks + 1, rfl⟩
        · exact .inr ⟨marks + 1, first, rest, rfl, letter⟩
      · exact .inr ⟨0, symbol, word, rfl, mark⟩

/-- Not all symbols of a name that a class changes are underscores. -/
theorem IsMangled.exists_stem {name : Text} (mangled : IsMangled name) :
    ∃ marks first rest, name = List.replicate marks underscore ++ first :: rest ∧
      first ≠ underscore := by
  rcases exists_marks name with ⟨marks, rfl⟩ | found
  · obtain ⟨starts, unended⟩ := mangled
    have several := starts.length_le
    rw [specialMark_eq, List.length_replicate, List.length_replicate] at several
    refine absurd ⟨List.replicate (marks - 2) underscore, ?_⟩ unended
    rw [specialMark_eq, List.replicate_append_replicate, Nat.sub_add_cancel several]
  · exact found

theorem avoidMangling_of_isMangled {name : Text} (mangled : IsMangled name) :
    avoidMangling name = name.dropWhile (· = underscore) ++ [underscore] := by
  rw [avoidMangling, if_pos (isMangled_iff.mp mangled)]
  rfl

theorem avoidMangling_of_not {name : Text} (unchanged : ¬ IsMangled name) :
    avoidMangling name = name := by
  rw [avoidMangling, if_neg (mt isMangled_iff.mpr unchanged)]

/-! ## Rules of spelling -/

/-- The identifier for a name with given word characters. -/
def spell (word : Text) : Text :=
  Naming.escape isReserved (avoidMangling (startWithLetter word))

theorem identifier_eq_spell (name : Text) : identifier name = spell (wordCharacters name) := rfl

/-- The rules by which the identifier follows from the word characters of a name. -/
inductive Spells : Text → Text → Prop where
  | blank : Spells [] [underscore]
  | number {first : Symbol} {rest : Text} :
      first.is Text.isDigit = true →
      Spells (first :: rest) (underscore :: first :: rest)
  | mangled {marks : Nat} {first : Symbol} {rest : Text} :
      first ≠ underscore →
      2 ≤ marks →
      ¬ specialMark <:+ rest →
      Spells (List.replicate marks underscore ++ first :: rest) (first :: rest ++ [underscore])
  | reserved {word : Text} :
      word ∈ reservedNames →
      Spells word (word ++ [underscore])
  | kept {first : Symbol} {rest : Text} :
      first.is Text.isDigit = false →
      ¬ IsMangled (first :: rest) →
      first :: rest ∉ reservedNames →
      Spells (first :: rest) (first :: rest)

theorem startWithLetter_number {first : Symbol} {rest : Text}
    (digit : first.is Text.isDigit = true) :
    startWithLetter (first :: rest) = underscore :: first :: rest := by
  rw [startWithLetter, if_pos digit]
  rfl

theorem startWithLetter_cons {first : Symbol} {rest : Text}
    (letter : first.is Text.isDigit = false) :
    startWithLetter (first :: rest) = first :: rest := by
  rw [startWithLetter, if_neg (by simp [letter])]

theorem ne_underscore_of_isDigit {symbol : Symbol} (digit : symbol.is Text.isDigit = true) :
    symbol ≠ underscore := by
  rintro rfl
  exact absurd digit (by decide)

theorem ne_underscore_of_isAlpha {symbol : Symbol} (letter : symbol.is Char.isAlpha = true) :
    symbol ≠ underscore := by
  rintro rfl
  exact absurd letter (by decide)

theorem Spells.spell_eq {word text : Text} (spells : Spells word text) : spell word = text := by
  cases spells with
  | blank => decide +kernel
  | @number first rest digit =>
      have unchanged : ¬ IsMangled (underscore :: first :: rest) :=
        not_isMangled_underscore_cons (ne_underscore_of_isDigit digit)
      rw [spell, startWithLetter_number digit, avoidMangling_of_not unchanged]
      exact escape_of_not_mem (not_mem_of_underscore List.mem_cons_self)
  | @mangled marks first rest letter several unended =>
      have mangled := (isMangled_append_cons_iff letter).mpr ⟨several, unended⟩
      have start : startWithLetter (List.replicate marks underscore ++ first :: rest) =
          List.replicate marks underscore ++ first :: rest := by
        match marks with
        | marks + 1 => exact startWithLetter_cons (by decide)
      rw [spell, start, avoidMangling_of_isMangled mangled, dropWhile_append_cons letter]
      exact escape_of_not_mem (not_mem_of_underscore (by simp))
  | reserved reserved =>
      obtain ⟨first, rest, rfl, letter⟩ := exists_letter_of_mem reserved
      have unchanged : ¬ IsMangled (first :: rest) :=
        fun mangled => ne_underscore_of_isAlpha letter (isMangled_cons mangled)
      rw [spell, startWithLetter_cons (isDigit_of_isAlpha letter), avoidMangling_of_not unchanged,
        escape_of_mem reserved]
  | kept letter unchanged free =>
      rw [spell, startWithLetter_cons letter, avoidMangling_of_not unchanged,
        escape_of_not_mem free]

/-- One of the rules applies to any word characters. -/
theorem exists_spells (word : Text) : ∃ text, Spells word text := by
  by_cases mangled : IsMangled word
  · obtain ⟨marks, first, rest, rfl, letter⟩ := mangled.exists_stem
    obtain ⟨several, unended⟩ := (isMangled_append_cons_iff letter).mp mangled
    exact ⟨_, .mangled letter several unended⟩
  by_cases reserved : word ∈ reservedNames
  · exact ⟨_, .reserved reserved⟩
  cases word with
  | nil => exact ⟨_, .blank⟩
  | cons first rest =>
      cases digit : first.is Text.isDigit with
      | true => exact ⟨_, .number digit⟩
      | false => exact ⟨_, .kept digit mangled reserved⟩

theorem spells_spell (word : Text) : Spells word (spell word) := by
  obtain ⟨text, spells⟩ := exists_spells word
  rw [spells.spell_eq]
  exact spells

theorem spell_eq_iff {word text : Text} : spell word = text ↔ Spells word text := by
  constructor
  · rintro rfl
    exact spells_spell word
  · exact Spells.spell_eq

/-- No identifier is a reserved name, or one that a class changes. -/
theorem Spells.unreserved {word text : Text} (spells : Spells word text) :
    text ∉ reservedNames ∧ ¬ IsMangled text := by
  cases spells with
  | blank =>
      exact ⟨not_mem_of_underscore (List.mem_singleton_self _), not_isMangled_underscore⟩
  | number digit =>
      exact ⟨not_mem_of_underscore List.mem_cons_self,
        not_isMangled_underscore_cons (ne_underscore_of_isDigit digit)⟩
  | mangled letter =>
      exact ⟨not_mem_of_underscore (by simp), fun mangled => letter (isMangled_cons mangled)⟩
  | reserved reserved =>
      obtain ⟨first, rest, rfl, letter⟩ := exists_letter_of_mem reserved
      refine ⟨not_mem_of_underscore (by simp), fun mangled => ?_⟩
      exact ne_underscore_of_isAlpha letter (isMangled_cons mangled)
  | kept _ unchanged free => exact ⟨free, unchanged⟩

theorem not_isMangled_identifier (name : Text) : ¬ IsMangled (identifier name) :=
  (spells_spell (wordCharacters name)).unreserved.2

theorem Spells.ne_nil {word text : Text} (spells : Spells word text) : text ≠ [] := by
  cases spells <;> simp

theorem identifier_ne_nil (name : Text) : identifier name ≠ [] :=
  (spells_spell (wordCharacters name)).ne_nil

/-! ## Identifiers of ASCII names -/

/-- A digit stands behind two or more underscores, and two underscores do not end the text. -/
def HidesDigit (word : Text) : Prop :=
  ∃ marks first rest, word = List.replicate marks underscore ++ first :: rest ∧
    first.is Text.isDigit = true ∧ 2 ≤ marks ∧ ¬ specialMark <:+ rest

theorem HidesDigit.isMangled {word : Text} (hides : HidesDigit word) : IsMangled word := by
  obtain ⟨marks, first, rest, rfl, digit, several, unended⟩ := hides
  exact (isMangled_append_cons_iff (ne_underscore_of_isDigit digit)).mpr ⟨several, unended⟩

theorem hidesDigit_append_cons_iff {marks : Nat} {first : Symbol} {rest : Text}
    (letter : first ≠ underscore) (several : 2 ≤ marks) (unended : ¬ specialMark <:+ rest) :
    HidesDigit (List.replicate marks underscore ++ first :: rest) ↔
      first.is Text.isDigit = true := by
  constructor
  · rintro ⟨more, digit, tail, same, isDigit, -, -⟩
    have behind := congrArg (List.dropWhile (· = underscore)) same
    rw [dropWhile_append_cons letter,
      dropWhile_append_cons (ne_underscore_of_isDigit isDigit)] at behind
    rwa [(List.cons.inj behind).1]
  · intro digit
    exact ⟨marks, first, rest, rfl, digit, several, unended⟩

/-- What can stand in an identifier is one unless a digit comes first. -/
theorem isAsciiIdentifier_cons_iff {first : Symbol} {rest : Text}
    (parts : ∀ symbol ∈ first :: rest, symbol.is Text.isNamePart = true) :
    Text.isAsciiIdentifier (first :: rest) = true ↔ first.is Text.isDigit = false := by
  obtain ⟨own, later⟩ := List.forall_mem_cons.mp parts
  have start : first.is Text.isNameStart = !first.is Text.isDigit := by
    cases first with
    | half offset => cases own
    | char value =>
        have part : Text.isNamePart value = true := own
        rw [Symbol.is, Text.isNameStart_eq, part, Bool.true_and]
        rfl
  rw [Text.isAsciiIdentifier, start, List.all_eq_true.mpr later, Bool.and_true,
    Bool.not_eq_true']

theorem Spells.isAsciiIdentifier_iff {word text : Text} (spells : Spells word text)
    (parts : ∀ symbol ∈ word, symbol.is Text.isNamePart = true) :
    text.isAsciiIdentifier = true ↔ ¬ HidesDigit word := by
  have mark : ∀ symbol ∈ [underscore], symbol.is Text.isNamePart = true := by decide
  cases spells with
  | blank =>
      have plain : ¬ HidesDigit [] := fun hides =>
        absurd hides.isMangled.1.length_le (by decide)
      exact iff_of_true (by decide) plain
  | @number first rest digit =>
      have plain : ¬ HidesDigit (first :: rest) := fun hides =>
        ne_underscore_of_isDigit digit (isMangled_cons hides.isMangled)
      have whole := List.forall_mem_append.mpr ⟨mark, parts⟩
      exact iff_of_true ((isAsciiIdentifier_cons_iff whole).mpr (by decide)) plain
  | @mangled marks first rest letter several unended =>
      have whole := List.forall_mem_append.mpr ⟨(List.forall_mem_append.mp parts).2, mark⟩
      rw [hidesDigit_append_cons_iff letter several unended, Bool.not_eq_true]
      exact isAsciiIdentifier_cons_iff whole
  | reserved reserved =>
      obtain ⟨first, rest, rfl, letter⟩ := exists_letter_of_mem reserved
      have plain : ¬ HidesDigit (first :: rest) := fun hides =>
        ne_underscore_of_isAlpha letter (isMangled_cons hides.isMangled)
      have whole := List.forall_mem_append.mpr ⟨parts, mark⟩
      exact iff_of_true ((isAsciiIdentifier_cons_iff whole).mpr (isDigit_of_isAlpha letter)) plain
  | kept letter unchanged =>
      have plain := mt HidesDigit.isMangled unchanged
      exact iff_of_true ((isAsciiIdentifier_cons_iff parts).mpr letter) plain

theorem isNamePart_of_mem_wordCharacters {name : Text}
    (ascii : ∀ symbol ∈ name, symbol.point < 128) :
    ∀ symbol ∈ wordCharacters name, symbol.is Text.isNamePart = true := by
  intro symbol member
  obtain ⟨original, among, rfl⟩ := List.mem_map.mp member
  split
  · rename_i word
    cases original with
    | half offset => cases word
    | char value => exact Text.isNamePart_of_isWord (ascii _ among) word
  · decide

/-- The identifier for a name of ASCII is no reserved name and none that a class changes, and
it is an identifier exactly if underscores do not hide a digit of the name that comes first
without them. -/
theorem identifier_of_ascii {name : Text} (ascii : ∀ symbol ∈ name, symbol.point < 128) :
    ((identifier name).isAsciiIdentifier = true ↔ ¬ HidesDigit (wordCharacters name)) ∧
      identifier name ∉ reservedNames ∧ ¬ IsMangled (identifier name) := by
  have spells := spells_spell (wordCharacters name)
  exact ⟨spells.isAsciiIdentifier_iff (isNamePart_of_mem_wordCharacters ascii),
    spells.unreserved⟩

theorem identifier_of_ascii_marked :
    (∀ symbol ∈ Text.ofString "__x-1", symbol.point < 128) ∧
      identifier "__x-1" = Text.ofString "x_1_" ∧
      ((identifier "__x-1").isAsciiIdentifier = true ↔
        ¬ HidesDigit (wordCharacters "__x-1")) ∧
      identifier "__x-1" ∉ reservedNames ∧ ¬ IsMangled (identifier "__x-1") := by
  have ascii : ∀ symbol ∈ Text.ofString "__x-1", symbol.point < 128 := by decide
  exact ⟨ascii, by decide +kernel, identifier_of_ascii ascii⟩

/-- Without its underscores a name starts with a digit. -/
theorem identifier_startsWithDigit :
    (∀ symbol ∈ Text.ofString "__1", symbol.point < 128) ∧
      identifier "__1" = Text.ofString "1_" ∧
      (identifier "__1").isAsciiIdentifier = false := by
  decide +kernel

end Bindings

end ProtocolBindings
