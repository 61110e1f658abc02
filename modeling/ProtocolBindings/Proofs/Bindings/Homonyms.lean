import ProtocolBindings.Proofs.Bindings.Identifier

/-!
# Homonyms

Two names have the same identifier if they differ in symbols that are no word characters, or
if spelling adds to one of them what the other one has already.  These are all the cases.
-/

namespace ProtocolBindings.Bindings

/-- The word characters whose identifier is an underscore. -/
def IsBlank (word : Text) : Prop := word = [] ∨ word = [underscore]

/-- The word characters whose identifier is a number behind an underscore. -/
def IsNumber (number word : Text) : Prop := word = number ∨ word = underscore :: number

/-- The word characters whose identifier is a stem with an underscore behind it. -/
inductive HasStem (stem : Text) : Text → Prop where
  | marked {marks : Nat} :
      2 ≤ marks →
      ¬ specialMark <:+ stem →
      HasStem stem (List.replicate marks underscore ++ stem)
  | reserved : stem ∈ reservedNames → HasStem stem stem
  | itself : stem.head?.any (Symbol.is Text.isDigit) = false → HasStem stem (stem ++ [underscore])

/-- Word characters with the same identifier. -/
inductive Homonyms (first second : Text) : Prop where
  | same : first = second → Homonyms first second
  | blank : IsBlank first → IsBlank second → Homonyms first second
  | number {digit : Symbol} {rest : Text} :
      digit.is Text.isDigit = true →
      IsNumber (digit :: rest) first →
      IsNumber (digit :: rest) second →
      Homonyms first second
  | stem {letter : Symbol} {rest : Text} :
      letter ≠ underscore →
      HasStem (letter :: rest) first →
      HasStem (letter :: rest) second →
      Homonyms first second

/-! ## Origins of identifiers -/

theorem spells_underscore_iff {word : Text} : Spells word [underscore] ↔ IsBlank word := by
  constructor
  · generalize target : [underscore] = text
    intro spells
    cases spells with
    | blank => exact .inl rfl
    | number => simp at target
    | mangled => simp at target
    | reserved reserved =>
        obtain ⟨first, rest, rfl, -⟩ := exists_letter_of_mem reserved
        simp at target
    | kept => exact .inr target.symm
  · rintro (rfl | rfl)
    · exact .blank
    · exact .kept (by decide) not_isMangled_underscore
        (not_mem_of_underscore (List.mem_singleton_self _))

theorem spells_number_iff {digit : Symbol} {rest word : Text}
    (isDigit : digit.is Text.isDigit = true) :
    Spells word (underscore :: digit :: rest) ↔ IsNumber (digit :: rest) word := by
  constructor
  · generalize target : underscore :: digit :: rest = text
    intro spells
    cases spells with
    | blank => simp at target
    | number => exact .inl (List.cons.inj target).2.symm
    | mangled letter => exact absurd (List.cons.inj target).1.symm letter
    | reserved reserved =>
        obtain ⟨first, more, rfl, letter⟩ := exists_letter_of_mem reserved
        exact absurd (List.cons.inj target).1.symm (ne_underscore_of_isAlpha letter)
    | kept => exact .inr target.symm
  · rintro (rfl | rfl)
    · exact .number isDigit
    · have unchanged : ¬ IsMangled (underscore :: digit :: rest) :=
        not_isMangled_underscore_cons (ne_underscore_of_isDigit isDigit)
      exact .kept (by decide) unchanged (not_mem_of_underscore List.mem_cons_self)

/-- Two underscores end a stem exactly if they end what stands behind its first symbol. -/
theorem specialMark_suffix_cons_iff {letter : Symbol} {rest : Text}
    (other : letter ≠ underscore) : specialMark <:+ letter :: rest ↔ specialMark <:+ rest :=
  (suffix_append_cons_iff (not_mem_specialMark other) :
    specialMark <:+ [] ++ letter :: rest ↔ specialMark <:+ rest)

theorem spells_stem_iff {letter : Symbol} {rest word : Text} (other : letter ≠ underscore) :
    Spells word (letter :: rest ++ [underscore]) ↔ HasStem (letter :: rest) word := by
  constructor
  · generalize target : letter :: rest ++ [underscore] = text
    intro spells
    cases spells with
    | blank => simp at target
    | number => exact absurd (List.cons.inj target).1 other
    | mangled _ several unended =>
        cases List.append_cancel_right target
        exact .marked several (mt (specialMark_suffix_cons_iff other).mp unended)
    | reserved reserved =>
        have same := List.append_cancel_right target
        rw [← same] at reserved ⊢
        exact .reserved reserved
    | kept letter =>
        obtain ⟨rfl, rfl⟩ := List.cons.inj target
        exact .itself letter
  · intro origin
    cases origin with
    | marked several unended =>
        exact .mangled other several (mt (specialMark_suffix_cons_iff other).mpr unended)
    | reserved reserved => exact .reserved reserved
    | itself letter =>
        exact .kept letter (fun mangled => other (isMangled_cons mangled))
          (not_mem_of_underscore (by simp))

/-- An identifier that comes from other word characters is an underscore, or one with a
number behind it, or behind a stem. -/
theorem Spells.kept_or {word text : Text} (spells : Spells word text) :
    word = text ∨ text = [underscore] ∨
      (∃ digit rest, digit.is Text.isDigit = true ∧ text = underscore :: digit :: rest) ∨
      ∃ letter rest, letter ≠ underscore ∧ text = letter :: rest ++ [underscore] := by
  cases spells with
  | blank => exact .inr (.inl rfl)
  | number digit => exact .inr (.inr (.inl ⟨_, _, digit, rfl⟩))
  | mangled letter => exact .inr (.inr (.inr ⟨_, _, letter, rfl⟩))
  | reserved reserved =>
      obtain ⟨first, rest, rfl, letter⟩ := exists_letter_of_mem reserved
      exact .inr (.inr (.inr ⟨first, rest, ne_underscore_of_isAlpha letter, rfl⟩))
  | kept => exact .inl rfl

/-- An origin of an identifier is the identifier itself, or a homonym of the other origins. -/
theorem Spells.homonyms {first second text : Text} (one : Spells first text)
    (two : Spells second text) : first = text ∨ Homonyms first second := by
  rcases one.kept_or with kept | rfl | ⟨digit, rest, isDigit, rfl⟩ | ⟨letter, rest, other, rfl⟩
  · exact .inl kept
  · exact .inr (.blank (spells_underscore_iff.mp one) (spells_underscore_iff.mp two))
  · exact .inr (.number isDigit ((spells_number_iff isDigit).mp one)
      ((spells_number_iff isDigit).mp two))
  · exact .inr (.stem other ((spells_stem_iff other).mp one) ((spells_stem_iff other).mp two))

theorem Homonyms.symm {first second : Text} (homonyms : Homonyms first second) :
    Homonyms second first := by
  cases homonyms with
  | same same => exact .same same.symm
  | blank one two => exact .blank two one
  | number isDigit one two => exact .number isDigit two one
  | stem other one two => exact .stem other two one

theorem spell_eq_spell_iff {first second : Text} :
    spell first = spell second ↔ Homonyms first second := by
  constructor
  · intro same
    have one := spell_eq_iff.mp same
    have two := spells_spell second
    rcases one.homonyms two with kept | homonyms
    · rcases two.homonyms one with own | homonyms
      · exact .same (kept.trans own.symm)
      · exact homonyms.symm
    · exact homonyms
  · intro homonyms
    cases homonyms with
    | same same => rw [same]
    | blank one two =>
        rw [(spells_underscore_iff.mpr one).spell_eq, (spells_underscore_iff.mpr two).spell_eq]
    | number isDigit one two =>
        rw [((spells_number_iff isDigit).mpr one).spell_eq,
          ((spells_number_iff isDigit).mpr two).spell_eq]
    | stem other one two =>
        rw [((spells_stem_iff other).mpr one).spell_eq, ((spells_stem_iff other).mpr two).spell_eq]

/-! ## Names -/

/-- Names with the same identifier. -/
def Alike (first second : Text) : Prop := Homonyms (wordCharacters first) (wordCharacters second)

theorem identifier_eq_identifier_iff {first second : Text} :
    identifier first = identifier second ↔ Alike first second := by
  rw [identifier_eq_spell, identifier_eq_spell]
  exact spell_eq_spell_iff

instance (first second : Text) : Decidable (Alike first second) :=
  decidable_of_iff _ identifier_eq_identifier_iff

example : Alike "step-in" "step_in" ∧ Alike "__class" "class" ∧ ¬ Alike "class" "_class" := by
  decide +kernel

/-- The identifiers for the names of some parts are distinct exactly if no two of the names
are alike. -/
theorem nodup_identifiers_iff {α : Type} {name : α → Text} {parts : List α} :
    (parts.map fun part => identifier (name part)).Nodup ↔
      parts.Pairwise fun first second => ¬ Alike (name first) (name second) := by
  rw [List.Nodup, List.pairwise_map]
  exact List.Pairwise.iff fun first second => not_congr identifier_eq_identifier_iff

end ProtocolBindings.Bindings
