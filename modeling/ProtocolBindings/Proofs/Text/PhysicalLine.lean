import ProtocolBindings.Text.LineFeed
import ProtocolBindings.Text.Lines

/-!
# Physical lines

A reader of generated code ends a line at a line feed, at a carriage return, or at a
carriage return with a line feed behind it, and at no other line boundary of Unicode.
-/

namespace ProtocolBindings.Text

/-- A text that stays on one physical line. -/
def SingleLine (text : Text) : Prop := ∀ symbol ∈ text, isLineEnd symbol = false

instance (text : Text) : Decidable (SingleLine text) :=
  inferInstanceAs (Decidable (∀ symbol ∈ text, isLineEnd symbol = false))

theorem singleLine_cons {symbol : Symbol} {text : Text} :
    SingleLine (symbol :: text) ↔ isLineEnd symbol = false ∧ SingleLine text :=
  List.forall_mem_cons

theorem singleLine_append {first second : Text} :
    SingleLine (first ++ second) ↔ SingleLine first ∧ SingleLine second :=
  List.forall_mem_append

theorem SingleLine.of_subset {part text : Text} (single : SingleLine text)
    (within : ∀ symbol ∈ part, symbol ∈ text) : SingleLine part :=
  fun symbol member => single symbol (within symbol member)

theorem eq_of_isLineEnd {symbol : Symbol} (ended : isLineEnd symbol = true) :
    symbol = '\n' ∨ symbol = '\r' :=
  (Bool.or_eq_true_iff.mp ended).imp of_decide_eq_true of_decide_eq_true

/-! ## Cutting -/

theorem physicalLines_lineFeed (rest : Text) :
    physicalLines ('\n' :: rest) = [] :: physicalLines rest := rfl

theorem physicalLines_cons_of_not_end {symbol : Symbol} (rest : Text)
    (inner : isLineEnd symbol = false) :
    physicalLines (symbol :: rest) = extendFirst symbol (physicalLines rest) := by
  rw [physicalLines]
  · simp [inner]
  · rintro rest rfl
    cases inner

theorem physicalLines_cons_of_end {symbol : Symbol} {rest : Text}
    (ended : isLineEnd symbol = true)
    (apart : ∀ more, symbol = .char '\r' → rest ≠ .char '\n' :: more) :
    physicalLines (symbol :: rest) = [] :: physicalLines rest := by
  rw [physicalLines]
  · simp [ended]
  · intro more return_ feed
    exact apart more return_ feed

/-- A line ends at the first line feed behind it. -/
theorem physicalLines_of_singleLine {line : Text} (single : SingleLine line) (rest : Text) :
    physicalLines (line ++ .char '\n' :: rest) = line :: physicalLines rest := by
  induction line with
  | nil => exact physicalLines_lineFeed rest
  | cons symbol line ih =>
      obtain ⟨inner, later⟩ := singleLine_cons.mp single
      rw [List.cons_append, physicalLines_cons_of_not_end _ inner, ih later]
      rfl

theorem physicalLines_ne_nil {text : Text} (present : text ≠ []) : physicalLines text ≠ [] := by
  unfold physicalLines
  split
  · exact absurd rfl present
  · simp
  · split
    · simp
    · unfold extendFirst
      split <;> simp

theorem extendFirst_append {lines : List Text} (symbol : Symbol) (more : List Text)
    (present : lines ≠ []) :
    extendFirst symbol (lines ++ more) = extendFirst symbol lines ++ more := by
  cases lines with
  | nil => exact absurd rfl present
  | cons line lines => rfl

/-- What stands behind a line feed does not change the lines before it. -/
theorem physicalLines_append_lineFeed (text rest : Text) :
    physicalLines (text ++ .char '\n' :: rest) =
      physicalLines (text ++ [.char '\n']) ++ physicalLines rest := by
  -- A carriage return at the end of the text takes the line feed into its own end.
  induction text using physicalLines.induct with
  | case1 => rfl
  | case2 text ih => simp only [List.cons_append, physicalLines, ih]
  | case3 symbol text apart ended ih =>
      cases text with
      | nil =>
          rcases eq_of_isLineEnd ended with rfl | rfl
          · rfl
          · rfl
      | cons second text =>
          have apart (tail : Text) (more : Text) (isReturn : symbol = .char '\r') :
              second :: (text ++ tail) ≠ .char '\n' :: more :=
            fun paired => apart text isReturn (by rw [(List.cons.inj paired).1])
          rw [List.cons_append, List.cons_append, List.cons_append, List.cons_append,
            physicalLines_cons_of_end ended (apart _), physicalLines_cons_of_end ended (apart _)]
          exact congrArg ([] :: ·) ih
  | case4 symbol text apart inner ih =>
      have inner : isLineEnd symbol = false := Bool.eq_false_iff.mpr inner
      rw [List.cons_append, List.cons_append, physicalLines_cons_of_not_end _ inner,
        physicalLines_cons_of_not_end _ inner, ih, extendFirst_append]
      exact physicalLines_ne_nil (by simp)

/-- A line feed at the end of a text ends its last line or an empty one. -/
theorem physicalLines_concat_lineFeed (text : Text) :
    physicalLines (text ++ [.char '\n']) = physicalLines text ∨
      physicalLines (text ++ [.char '\n']) = physicalLines text ++ [[]] := by
  induction text using physicalLines.induct with
  | case1 => exact .inr rfl
  | case2 text ih =>
      simpa only [List.cons_append, physicalLines, List.cons.injEq, true_and] using ih
  | case3 symbol text apart ended ih =>
      cases text with
      | nil =>
          rcases eq_of_isLineEnd ended with rfl | rfl
          · exact .inr rfl
          · exact .inl rfl
      | cons second text =>
          have later (more : Text) (isReturn : symbol = .char '\r') :
              second :: (text ++ [.char '\n']) ≠ .char '\n' :: more :=
            fun paired => apart text isReturn (by rw [(List.cons.inj paired).1])
          rw [List.cons_append, List.cons_append, physicalLines_cons_of_end ended later,
            physicalLines_cons_of_end ended apart]
          simpa only [List.cons_append, List.cons.injEq, true_and] using ih
  | case4 symbol text apart inner ih =>
      have inner : isLineEnd symbol = false := Bool.eq_false_iff.mpr inner
      rw [List.cons_append, physicalLines_cons_of_not_end _ inner,
        physicalLines_cons_of_not_end _ inner]
      cases text with
      | nil => exact .inl rfl
      | cons second text =>
          rcases ih with same | further
          · exact .inl (congrArg (extendFirst symbol) same)
          · rw [further, extendFirst_append]
            · exact .inr rfl
            · exact physicalLines_ne_nil (List.cons_ne_nil _ _)

/-- No physical line has a line end inside. -/
theorem singleLine_of_mem_physicalLines (text : Text) :
    ∀ line ∈ physicalLines text, SingleLine line := by
  induction text using physicalLines.induct with
  | case1 => exact nofun
  | case2 text ih => exact List.forall_mem_cons.mpr ⟨nofun, ih⟩
  | case3 symbol text apart ended ih =>
      rw [physicalLines_cons_of_end ended apart]
      exact List.forall_mem_cons.mpr ⟨nofun, ih⟩
  | case4 symbol text apart inner ih =>
      have inner : isLineEnd symbol = false := Bool.eq_false_iff.mpr inner
      rw [physicalLines_cons_of_not_end _ inner]
      cases lines : physicalLines text with
      | nil => exact List.forall_mem_singleton.mpr (singleLine_cons.mpr ⟨inner, nofun⟩)
      | cons first rest =>
          rw [lines] at ih
          obtain ⟨single, later⟩ := List.forall_mem_cons.mp ih
          exact List.forall_mem_cons.mpr ⟨singleLine_cons.mpr ⟨inner, single⟩, later⟩

/-! ## Lines cut at every boundary -/

theorem isLineBreak_of_isLineEnd {symbol : Symbol} (ended : isLineEnd symbol = true) :
    symbol.is isLineBreak = true := by
  rcases eq_of_isLineEnd ended with rfl | rfl
  · rfl
  · rfl

theorem isLineEnd_eq_false_of_not_break {symbol : Symbol}
    (inner : ¬symbol.is isLineBreak = true) : isLineEnd symbol = false :=
  Bool.eq_false_iff.mpr fun ended => inner (isLineBreak_of_isLineEnd ended)

theorem singleLine_reverse {line : Text} (single : SingleLine line) :
    SingleLine line.reverse :=
  single.of_subset fun _ member => List.mem_reverse.mp member

theorem singleLine_of_mem_linesFrom {current text : Text} (single : SingleLine current) :
    ∀ line ∈ linesFrom current text, SingleLine line := by
  induction current, text using linesFrom.induct with
  | case1 current empty =>
      rw [linesFrom, if_pos empty]
      exact nofun
  | case2 current present =>
      rw [linesFrom, if_neg present]
      exact List.forall_mem_singleton.mpr (singleLine_reverse single)
  | case3 current rest ih =>
      rw [linesFrom]
      exact List.forall_mem_cons.mpr ⟨singleLine_reverse single, ih nofun⟩
  | case4 current symbol rest apart ended ih =>
      rw [linesFrom, if_pos ended]
      · exact List.forall_mem_cons.mpr ⟨singleLine_reverse single, ih nofun⟩
      · exact apart
  | case5 current symbol rest apart inner ih =>
      rw [linesFrom, if_neg inner]
      · exact ih (singleLine_cons.mpr ⟨isLineEnd_eq_false_of_not_break inner, single⟩)
      · exact apart

/-- No line of a text runs over a line end. -/
theorem singleLine_of_mem_lines {text : Text} : ∀ line ∈ lines text, SingleLine line :=
  singleLine_of_mem_linesFrom nofun

theorem singleLine_stripEnd {line : Text} (single : SingleLine line) :
    SingleLine (stripEnd line) := by
  apply single.of_subset
  intro symbol member
  have kept := (List.dropWhile_sublist _).mem (List.mem_reverse.mp member)
  exact List.mem_reverse.mp kept

end ProtocolBindings.Text
