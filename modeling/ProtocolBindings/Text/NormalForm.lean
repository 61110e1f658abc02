import ProtocolBindings.Text.NormalTable

/-!
# The normal form of identifiers

Identifiers of the generated language are taken in the normal form NFKC.  A character is
expanded to what it stands for, marks in a row are put in the order of their classes, and a
letter is composed with the marks after it.  The syllables of Hangul are taken apart and
composed by their numbers.
-/

namespace ProtocolBindings.Text

/-! ## Expansion -/

/-- Whether a code point is that of a composed syllable of Hangul. -/
def isSyllable (point : Nat) : Bool := 0xAC00 ≤ point && point < 0xD7A4

/-- The letters of a syllable: a leading consonant, a vowel, and perhaps a trailing
consonant. -/
def syllableLetters (point : Nat) : List Nat :=
  let index := point - 0xAC00
  let trailing := index % 28
  [0x1100 + index / 588, 0x1161 + index % 588 / 28] ++
    if trailing = 0 then [] else [0x11A7 + trailing]

/-- The tables of characters that stand for others. -/
def expansionTables : List (List (Nat × List Nat)) :=
  [letterExpansions, symbolExpansions, syllabicExpansions, ideographExpansions, shapeExpansions,
    supplementaryExpansions]

/-- What a character stands for.  Those below the no-break space stand for themselves. -/
def expansion (point : Nat) : List Nat :=
  if point < 0xA0 then [point]
  else if isSyllable point then syllableLetters point
  else match expansionTables.findSome? (List.lookup point) with
    | some points => points
    | none => [imageIn expansionRuns point]

/-! ## Marks -/

/-- The class of a mark, and 0 for a character that is no mark. -/
def markClass (point : Nat) : Nat :=
  match markRuns.find? fun (first, last, _) => first ≤ point && point ≤ last with
  | some (_, _, number) => number
  | none => 0

/-- Put a character in front of characters in order: a mark goes behind those of a lower class. -/
def placeMark (point : Nat) : List Nat → List Nat
  | [] => [point]
  | next :: rest =>
      if 0 < markClass next && markClass next < markClass point then
        next :: placeMark point rest
      else point :: next :: rest

/-- Marks in a row in the order of their classes. -/
def orderMarks (points : List Nat) : List Nat := points.foldr placeMark []

/-! ## Composition -/

/-- The character that two characters in a row are composed to, if there is one. -/
def composite? (first second : Nat) : Option Nat :=
  if 0x1100 ≤ first && first < 0x1113 && 0x1161 ≤ second && second < 0x1176 then
    some (0xAC00 + (first - 0x1100) * 588 + (second - 0x1161) * 28)
  else if isSyllable first && (first - 0xAC00) % 28 == 0 &&
      0x11A7 < second && second < 0x11C3 then
    some (first + (second - 0x11A7))
  else
    (compositions.find? fun (left, right, _) => left == first && right == second).map
      fun (_, _, whole) => whole

/-- Compose a letter with characters after it, where `marks` (reversed) stand between.  A
character is kept from the letter by a mark of its own class or a higher one. -/
def composeFrom (letter : Nat) (marks : List Nat) : List Nat → List Nat
  | [] => letter :: marks.reverse
  | point :: rest =>
      let reaches := marks.head?.all fun mark => markClass mark < markClass point
      match if reaches then composite? letter point else none with
      | some whole => composeFrom whole marks rest
      | none =>
          if markClass point = 0 then letter :: marks.reverse ++ composeFrom point [] rest
          else composeFrom letter (point :: marks) rest

/-- Compose letters with what follows them. -/
def compose : List Nat → List Nat
  | [] => []
  | first :: rest => composeFrom first [] rest

/-! ## Normal form -/

/-- The normal form of a text. -/
def normal (text : Text) : Text :=
  (compose (orderMarks ((text.map Symbol.point).flatMap expansion))).map Symbol.ofPoint

/-- A text is its own normal form. -/
def IsNormal (text : Text) : Prop := normal text = text

instance (text : Text) : Decidable (IsNormal text) := inferInstanceAs (Decidable (_ = _))

/-! ## Texts in normal form -/

theorem expansion_of_lt {point : Nat} (low : point < 0xA0) : expansion point = [point] :=
  if_pos low

/-- The first mark is the combining grave accent. -/
theorem markClass_of_lt {point : Nat} (low : point < 0x300) : markClass point = 0 := by
  have above : ∀ run ∈ markRuns, 0x300 ≤ run.1 := by decide +kernel
  have missed : (markRuns.find? fun (first, last, _) => first ≤ point && point ≤ last) = none := by
    refine List.find?_eq_none.mpr fun run member found => ?_
    have first := above run member
    simp only [Bool.and_eq_true, decide_eq_true_eq] at found
    omega
  rw [markClass, missed]

/-- Nothing is composed with a character below the marks. -/
theorem composite?_of_lt {first second : Nat} (low : second < 0x300) :
    composite? first second = none := by
  have above : ∀ pair ∈ compositions, 0x300 ≤ pair.2.1 := by decide +kernel
  have missed : (compositions.find? fun (left, right, _) => left == first && right == second) =
      none := by
    refine List.find?_eq_none.mpr ?_
    rintro ⟨left, right, whole⟩ member found
    have own : 0x300 ≤ right := above _ member
    simp only [Bool.and_eq_true, beq_iff_eq] at found
    omega
  have noVowel : ¬ 0x1161 ≤ second := by omega
  have noTrailing : ¬ 0x11A7 < second := by omega
  simp [composite?, noVowel, noTrailing, missed]

theorem orderMarks_of_lt {points : List Nat} (low : ∀ point ∈ points, point < 0x300) :
    orderMarks points = points := by
  induction points with
  | nil => rfl
  | cons point rest ih =>
      obtain ⟨own, later⟩ := List.forall_mem_cons.mp low
      have kept : orderMarks rest = rest := ih later
      have placed : orderMarks (point :: rest) = placeMark point rest :=
        congrArg (placeMark point) kept
      cases rest with
      | nil => rfl
      | cons next others => simp [placed, placeMark, markClass_of_lt own]

theorem compose_of_lt {points : List Nat} (low : ∀ point ∈ points, point < 0x300) :
    compose points = points := by
  cases points with
  | nil => rfl
  | cons letter rest =>
      rw [compose]
      induction rest generalizing letter with
      | nil => rfl
      | cons point others ih =>
          obtain ⟨-, later⟩ := List.forall_mem_cons.mp low
          have own : point < 0x300 := (List.forall_mem_cons.mp later).1
          have next := ih point later
          simp [composeFrom, composite?_of_lt own, markClass_of_lt own, next]

/-- A text of characters below the no-break space, such as one of ASCII, is in normal form. -/
theorem isNormal_of_lt {text : Text} (low : ∀ symbol ∈ text, symbol.point < 0xA0) :
    IsNormal text := by
  have points : ∀ point ∈ text.map Symbol.point, point < 0xA0 := by simpa using low
  have marks : ∀ point ∈ text.map Symbol.point, point < 0x300 := fun point member =>
    Nat.lt_trans (points point member) (by decide)
  have expanded : (text.map Symbol.point).flatMap expansion = text.map Symbol.point := by
    have alone : (text.map Symbol.point).map expansion = (text.map Symbol.point).map ([·]) :=
      List.map_congr_left fun point member => expansion_of_lt (points point member)
    rw [List.flatMap_def, alone, ← List.flatMap_def, List.flatMap_singleton']
  rw [IsNormal, normal, expanded, orderMarks_of_lt marks, compose_of_lt marks, List.map_map]
  exact List.map_id'' (fun symbol => Symbol.ofPoint_point symbol) text

end ProtocolBindings.Text
