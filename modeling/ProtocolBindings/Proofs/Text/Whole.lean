import ProtocolBindings.Naming
import ProtocolBindings.Text.Lines

/-!
# Whole texts

A text is whole if no half of a surrogate pair stands in it, that is, if it is the text of
a string.  What is put together from whole texts is whole, and so is every part of one.
-/

namespace ProtocolBindings

/-- Whether a symbol is half of a surrogate pair. -/
def Symbol.isHalf : Symbol → Bool
  | .char _ => false
  | .half _ => true

namespace Text

/-- A text without halves. -/
def Whole (text : Text) : Prop := ∀ symbol ∈ text, symbol.isHalf = false

instance (text : Text) : Decidable text.Whole :=
  inferInstanceAs (Decidable (∀ symbol ∈ text, symbol.isHalf = false))

variable {text part first second : Text}

@[simp] theorem whole_nil : Whole [] := nofun

@[simp] theorem whole_cons {symbol : Symbol} :
    Whole (symbol :: text) ↔ symbol.isHalf = false ∧ Whole text :=
  List.forall_mem_cons

@[simp] theorem whole_append : Whole (first ++ second) ↔ Whole first ∧ Whole second :=
  List.forall_mem_append

@[simp] theorem whole_ofCharacters (characters : List Char) : (ofCharacters characters).Whole :=
  List.forall_mem_map.mpr fun _ _ => rfl

@[simp] theorem whole_ofString (string : String) : (ofString string).Whole :=
  whole_ofCharacters string.toList

theorem Whole.of_subset (whole : text.Whole) (within : part ⊆ text) : part.Whole :=
  fun symbol member => whole symbol (within member)

/-- Only the texts of strings are whole. -/
theorem whole_iff_exists_string : text.Whole ↔ ∃ string, text = ofString string := by
  constructor
  · intro whole
    induction text with
    | nil => exact ⟨"", rfl⟩
    | cons symbol text ih =>
        obtain ⟨single, later⟩ := whole_cons.mp whole
        obtain ⟨string, rfl⟩ := ih later
        cases symbol with
        | half offset => cases single
        | char value =>
            have written : ofString (String.ofList (value :: string.toList)) =
                ofCharacters (value :: string.toList) :=
              congrArg ofCharacters String.toList_ofList
            exact ⟨_, written.symm⟩
  · rintro ⟨string, rfl⟩
    exact whole_ofString string

theorem whole_flatMap {α : Type} {parts : List α} {function : α → Text}
    (each : ∀ part ∈ parts, (function part).Whole) : Whole (parts.flatMap function) :=
  List.forall_mem_flatMap.mpr each

theorem whole_intercalate {separator : Text} {parts : List Text} (between : separator.Whole)
    (each : ∀ part ∈ parts, Whole part) : Whole (separator.intercalate parts) := by
  induction parts with
  | nil => exact whole_nil
  | cons part parts ih =>
      obtain ⟨own, later⟩ := List.forall_mem_cons.mp each
      cases parts with
      | nil => simpa using own
      | cons next parts =>
          rw [List.intercalate_cons_cons]
          exact whole_append.mpr ⟨whole_append.mpr ⟨own, between⟩, ih later⟩

/-! ## Parts -/

theorem Whole.dropEndWhile (whole : text.Whole) (test : Symbol → Bool) :
    Whole (dropEndWhile test text) :=
  whole.of_subset fun _ member =>
    List.mem_reverse.mp ((List.dropWhile_sublist _).mem (List.mem_reverse.mp member))

theorem Whole.strip (whole : text.Whole) : text.strip.Whole :=
  (whole.of_subset (List.dropWhile_sublist _).subset).dropEndWhile _

theorem whole_of_mem_linesFrom {current : Text} (read : current.Whole) (whole : text.Whole) :
    ∀ line ∈ linesFrom current text, line.Whole := by
  have turned {current : Text} (read : current.Whole) : Whole current.reverse :=
    read.of_subset fun _ member => List.mem_reverse.mp member
  induction current, text using linesFrom.induct with
  | case1 current empty =>
      rw [linesFrom, if_pos empty]
      exact nofun
  | case2 current present =>
      rw [linesFrom, if_neg present]
      exact List.forall_mem_singleton.mpr (turned read)
  | case3 current rest ih =>
      obtain ⟨-, -, later⟩ := (whole_cons.trans (and_congr_right fun _ => whole_cons)).mp whole
      rw [linesFrom]
      exact List.forall_mem_cons.mpr ⟨turned read, ih whole_nil later⟩
  | case4 current symbol rest apart ended ih =>
      rw [linesFrom, if_pos ended]
      · exact List.forall_mem_cons.mpr ⟨turned read, ih whole_nil (whole_cons.mp whole).2⟩
      · exact apart
  | case5 current symbol rest apart inner ih =>
      obtain ⟨single, later⟩ := whole_cons.mp whole
      rw [linesFrom, if_neg inner]
      · exact ih (whole_cons.mpr ⟨single, read⟩) later
      · exact apart

theorem Whole.lines (whole : text.Whole) : ∀ line ∈ text.lines, line.Whole :=
  whole_of_mem_linesFrom whole_nil whole

end Text

namespace Naming

open Text (Whole whole_append)

/-- A name that is synthesized from whole names is whole. -/
theorem whole_synthesized {enclosing property : Text} (outer : enclosing.Whole)
    (own : property.Whole) : (synthesized enclosing property).Whole := by
  refine whole_append.mpr ⟨outer, ?_⟩
  cases property with
  | nil => exact Text.whole_nil
  | cons first rest =>
      obtain ⟨single, later⟩ := Text.whole_cons.mp own
      cases first with
      | half offset => cases single
      | char value => exact whole_append.mpr ⟨Text.whole_ofCharacters _, later⟩

end Naming

end ProtocolBindings
