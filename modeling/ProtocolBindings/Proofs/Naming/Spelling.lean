import ProtocolBindings.Naming

/-!
# Spelling of labels

The label of an enumeration value spells the value in capital letters.  Separators are put in
where a capital letter stands and taken out of the one word that this pulls apart; every letter
and every digit stays in its place, so that the label differs from the value in upper case by
separators only.
-/

namespace ProtocolBindings

/-- A blank or an underscore. -/
def Symbol.isSeparator (symbol : Symbol) : Bool :=
  symbol = .char ' ' || symbol = .char '_'

namespace Text

variable {text : Text}

/-! ## Separators -/

/-- What remains of a text without its separators. -/
def withoutSeparators (text : Text) : Text := text.filter fun symbol => !symbol.isSeparator

@[simp] theorem withoutSeparators_append (first second : Text) :
    withoutSeparators (first ++ second) = withoutSeparators first ++ withoutSeparators second :=
  List.filter_append ..

theorem withoutSeparators_replaceEach {old new : Symbol} (parts : old.isSeparator = true)
    (alsoParts : new.isSeparator = true) (text : Text) :
    withoutSeparators (replaceEach old new text) = withoutSeparators text := by
  induction text with
  | nil => rfl
  | cons symbol text ih =>
      simp only [withoutSeparators, replaceEach] at ih
      by_cases here : symbol = old
      · simp [withoutSeparators, replaceEach, here, parts, alsoParts, ih]
      · simp [withoutSeparators, replaceEach, List.filter_cons, here, ih]

/-! ## Replaced parts -/

/-- Where a part is replaced, it stands between what comes before and what comes behind. -/
theorem exists_of_replaceFirst? {α : Type} [DecidableEq α]
    {part replacement list result : List α}
    (replaced : replaceFirst? part replacement list = some result) :
    ∃ before behind, list = before ++ part ++ behind ∧
      result = before ++ replacement ++ behind := by
  induction list generalizing result with
  | nil =>
      rw [replaceFirst?] at replaced
      split at replaced
      · rename_i empty
        cases replaced
        exact ⟨[], [], by simp [List.isEmpty_iff.mp empty], by simp⟩
      · cases replaced
  | cons symbol list ih =>
      rw [replaceFirst?] at replaced
      split at replaced
      · rename_i starts
        cases replaced
        obtain ⟨behind, same⟩ := List.isPrefixOf_iff_prefix.mp starts
        refine ⟨[], behind, same.symm, ?_⟩
        rw [← same, List.drop_left, List.nil_append]
      · obtain ⟨rest, later, rfl⟩ := Option.map_eq_some_iff.mp replaced
        obtain ⟨before, behind, rfl, rfl⟩ := ih later
        exact ⟨symbol :: before, behind, rfl, rfl⟩

/-! ## Upper case -/

/-- The symbols of a text are of ASCII. -/
def IsAscii (text : Text) : Prop := ∀ symbol ∈ text, symbol.point < 128

instance (text : Text) : Decidable text.IsAscii :=
  inferInstanceAs (Decidable (∀ symbol ∈ text, symbol.point < 128))

/-- A text has a small letter of ASCII. -/
def hasLower (text : Text) : Bool := text.any (Symbol.is Char.isLower)

@[simp] theorem hasLower_append (first second : Text) :
    (first ++ second).hasLower = (first.hasLower || second.hasLower) :=
  List.any_append

theorem hasLower_eq_false_iff :
    text.hasLower = false ↔ ∀ symbol ∈ text, symbol.is Char.isLower = false := by
  simp [hasLower]

/-- A symbol of ASCII has one upper-case form, which is no small letter. -/
theorem upperSymbol_of_ascii {symbol : Symbol} (ascii : symbol.point < 128) :
    ∃ character : Char, symbol = .char character ∧
      upperSymbol symbol = [.char character.toUpper] := by
  cases symbol with
  | half offset =>
      rw [Symbol.point] at ascii
      omega
  | char character =>
      refine ⟨character, rfl, ?_⟩
      rw [upperSymbol, upperCharacter, if_pos (show character.toNat < 128 from ascii)]
      rfl

theorem IsAscii.hasLower_upper (ascii : text.IsAscii) : (upper text).hasLower = false := by
  rw [hasLower_eq_false_iff]
  intro symbol member
  obtain ⟨origin, among, image⟩ := List.mem_flatMap.mp member
  obtain ⟨character, _, upperCase⟩ := upperSymbol_of_ascii (ascii origin among)
  rw [upperCase, List.mem_singleton] at image
  rw [image]
  exact isLower_toUpper character

theorem IsAscii.upper_eq_self (ascii : text.IsAscii) (capital : text.hasLower = false) :
    upper text = text := by
  rw [hasLower_eq_false_iff] at capital
  induction text with
  | nil => rfl
  | cons symbol text ih =>
      obtain ⟨own, others⟩ := List.forall_mem_cons.mp ascii
      obtain ⟨large, later⟩ := List.forall_mem_cons.mp capital
      obtain ⟨character, rfl, upperCase⟩ := upperSymbol_of_ascii own
      have same : character.toUpper = character :=
        toUpper_of_isLower_eq_false large
      rw [upper, List.flatMap_cons, upperCase, same]
      exact congrArg (Symbol.char character :: ·) (ih others later)

end Text

namespace Naming

open Text

variable {value : Text}

/-! ## Words of a label -/

/-- The words of a value in upper case with underscores between them. -/
def spread (value : Text) : Text :=
  replaceEach (.char ' ') (.char '_') (upper (separateCapitals value))

/-- A value without small letters is its own label. -/
theorem label_of_capital (capital : value.hasLower = false) : label value = (value, true) := by
  rw [label, ← hasLower, capital, if_neg Bool.false_ne_true]

/-- The label of another value are its words, where the word pulled apart is mended once. -/
theorem label_of_hasLower (lower : value.hasLower = true) :
    (label value).1 = spread value ∨ ∃ before behind,
      spread value = before ++ splitWord ++ behind ∧
      (label value).1 = before ++ properWord ++ behind := by
  rw [label, ← hasLower, if_pos lower]
  dsimp only
  rw [← spread]
  cases mended : replaceFirst? splitWord properWord (spread value) with
  | none => exact .inl rfl
  | some proper => exact .inr (exists_of_replaceFirst? mended)

theorem isAscii_separateCapitals (ascii : value.IsAscii) : (separateCapitals value).IsAscii := by
  intro symbol member
  obtain ⟨origin, among, placed⟩ := List.mem_flatMap.mp member
  split at placed
  · rcases List.mem_cons.mp placed with rfl | placed
    · decide
    · rw [List.mem_singleton.mp placed]
      exact ascii origin among
  · rw [List.mem_singleton.mp placed]
    exact ascii origin among

/-- Only separators are put between the words. -/
theorem withoutSeparators_spread (value : Text) :
    withoutSeparators (spread value) = withoutSeparators (upper value) := by
  rw [spread, withoutSeparators_replaceEach (by decide) (by decide)]
  induction value with
  | nil => rfl
  | cons symbol value ih =>
      have underscore : withoutSeparators (upperSymbol (.char '_')) = [] := by decide
      simp only [upper, separateCapitals] at ih
      simp only [upper, separateCapitals, List.flatMap_cons, List.flatMap_append,
        withoutSeparators_append, ih]
      split
      · simp [underscore]
      · simp

theorem hasLower_spread (ascii : value.IsAscii) : (spread value).hasLower = false := by
  have large := hasLower_eq_false_iff.mp (isAscii_separateCapitals ascii).hasLower_upper
  rw [hasLower_eq_false_iff]
  intro symbol member
  obtain ⟨origin, among, rfl⟩ := List.mem_map.mp member
  split
  · rfl
  · exact large origin among

theorem blank_not_mem_spread (value : Text) : Symbol.char ' ' ∉ spread value := by
  intro member
  obtain ⟨origin, _, same⟩ := List.mem_map.mp member
  split at same
  · cases same
  · rename_i other
    exact other same

/-! ## Labels -/

/-- A label spells its value in capital letters: without separators it is the value in upper
case, it has no small letter, its words are separated by underscores unless the value is its own
label, and it is a label of its own. -/
structure SpellsInCapitals (value : Text) : Prop where
  letters : withoutSeparators (label value).1 = withoutSeparators (upper value)
  capital : (label value).1.hasLower = false
  blank : Symbol.char ' ' ∈ (label value).1 → value.hasLower = false
  settled : label (label value).1 = ((label value).1, true)

/-- The label of every value of ASCII spells it in capital letters. -/
theorem spellsInCapitals_of_ascii (ascii : value.IsAscii) : SpellsInCapitals value := by
  cases lower : value.hasLower with
  | false =>
      have own : (label value).1 = value := by rw [label_of_capital lower]
      refine ⟨?_, ?_, fun _ => lower, ?_⟩
      · rw [own, ascii.upper_eq_self lower]
      · rw [own, lower]
      · rw [own, label_of_capital lower]
  | true =>
      have letters := withoutSeparators_spread value
      have large := hasLower_spread ascii
      have blank := blank_not_mem_spread value
      suffices spelled : withoutSeparators (label value).1 = withoutSeparators (upper value) ∧
          (label value).1.hasLower = false ∧ Symbol.char ' ' ∉ (label value).1 from
        ⟨spelled.1, spelled.2.1, fun member => absurd member spelled.2.2,
          label_of_capital spelled.2.1⟩
      rcases label_of_hasLower lower with same | ⟨before, behind, split, same⟩
      · rw [same]
        exact ⟨letters, large, blank⟩
      · -- The mended word has the letters of the one that was pulled apart, and no separators.
        have mended : withoutSeparators properWord = withoutSeparators splitWord := by decide
        have proper : properWord.hasLower = false := by decide
        have whole : Symbol.char ' ' ∉ properWord := by decide
        rw [split] at letters large blank
        simp only [hasLower_append, Bool.or_eq_false_iff] at large
        simp only [List.mem_append, not_or] at blank
        rw [same]
        refine ⟨?_, ?_, ?_⟩
        · rw [← letters]
          simp only [withoutSeparators_append, mended]
        · simp only [hasLower_append, large, proper, Bool.or_self]
        · simp only [List.mem_append, not_or]
          exact ⟨⟨blank.1.1, whole⟩, blank.2⟩

/-- Capitals may pull apart a word that the value has pulled apart already. -/
theorem spellsInCapitals_mixedCase :
    Text.IsAscii "aU_T_C UTC_b" ∧ label "aU_T_C UTC_b" = (Text.ofString "A_U__T__C__UTC_B", true) ∧
      SpellsInCapitals "aU_T_C UTC_b" :=
  ⟨by decide, by decide, spellsInCapitals_of_ascii (by decide)⟩

end Naming

end ProtocolBindings
