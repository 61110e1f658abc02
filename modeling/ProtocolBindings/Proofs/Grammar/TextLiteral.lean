import Mathlib.Algebra.Group.Nat.Defs
import ProtocolBindings.Json.Printer
import ProtocolBindings.Json.Reader
import ProtocolBindings.Proofs.Text.PhysicalLine

/-!
# Reading text literals

How the generated language reads a text literal in double quotes, single or triple: the
body ends at the first quotes that no backslash protects, and in the body an escape of
four hexadecimal digits stands for the one code point that it names, whatever stands
beside it.
-/

namespace ProtocolBindings.Grammar

open Text (isLineEnd)

def literalQuotes (triple : Bool) : Text := if triple then "\"\"\"" else "\""

/-- The body of a literal up to its closing quotes, and the rest.  A backslash protects
the symbol behind it, and only triple quotes admit a line end. -/
def spanLiteral (triple : Bool) : Text → Option (Text × Text)
  | [] => none
  | .char '\\' :: escaped :: rest =>
      (spanLiteral triple rest).map fun (body, after) => (.char '\\' :: escaped :: body, after)
  | symbol :: rest =>
      if (literalQuotes triple).isPrefixOf (symbol :: rest) then
        some ([], (symbol :: rest).drop (literalQuotes triple).length)
      else if !triple && isLineEnd symbol then none
      else (spanLiteral triple rest).map fun (body, after) => (symbol :: body, after)

def letterEscape? : Symbol → Option Char
  | .char '"' => some '"'
  | .char '\\' => some '\\'
  | .char 'n' => some '\n'
  | .char 'r' => some '\r'
  | .char 't' => some '\t'
  | .char 'b' => some '\x08'
  | .char 'f' => some '\x0c'
  | _ => none

def codePoint? (digits : Text) : Option Nat :=
  digits.foldlM (fun point digit => (digit.char?.bind Json.hexValue).map (16 * point + ·)) 0

/-- The text that the body of a literal stands for. -/
def unescape : Text → Option Text
  | [] => some []
  | .char '\\' :: .char 'u' :: first :: second :: third :: fourth :: rest => do
      let point ← codePoint? [first, second, third, fourth]
      let value ← unescape rest
      return .ofPoint point :: value
  | .char '\\' :: letter :: rest => do
      let character ← letterEscape? letter
      let value ← unescape rest
      return .char character :: value
  | symbol :: rest => if symbol = '\\' then none else (unescape rest).map (symbol :: ·)

/-- The text of a literal that starts at its quotes, and the rest. -/
def readLiteral (triple : Bool) (text : Text) : Option (Text × Text) := do
  let afterQuotes ← Text.afterStart? (literalQuotes triple) text
  let (body, rest) ← spanLiteral triple afterQuotes
  let value ← unescape body
  return (value, rest)

/-- A symbol that stands for itself in the body of a literal. -/
structure Plain (triple : Bool) (symbol : Symbol) : Prop where
  noQuote : symbol ≠ '"'
  noEscape : symbol ≠ '\\'
  inner : triple = true ∨ isLineEnd symbol = false

/-- A piece of the body of a literal that stands for a text, whatever stands behind it. -/
structure Denotes (triple : Bool) (piece value : Text) : Prop where
  span : ∀ rest, spanLiteral triple (piece ++ rest) =
    (spanLiteral triple rest).map fun (body, after) => (piece ++ body, after)
  unescape : ∀ rest, unescape (piece ++ rest) = (unescape rest).map (value ++ ·)

namespace Denotes

variable {triple : Bool} {piece more value moreValue : Text}

theorem nil : Denotes triple [] [] where
  span rest := by simp
  unescape rest := by simp

theorem append (first : Denotes triple piece value) (second : Denotes triple more moreValue) :
    Denotes triple (piece ++ more) (value ++ moreValue) where
  span rest := by
    rw [List.append_assoc, first.span, second.span, Option.map_map]
    simp [Function.comp_def]
  unescape rest := by
    rw [List.append_assoc, first.unescape, second.unescape, Option.map_map]
    simp [Function.comp_def]

/-- Pieces one after another stand for their texts one after another. -/
theorem flatMap {α : Type} {elements : List α} {pieceOf valueOf : α → Text}
    (each : ∀ element ∈ elements, Denotes triple (pieceOf element) (valueOf element)) :
    Denotes triple (elements.flatMap pieceOf) (elements.flatMap valueOf) := by
  induction elements with
  | nil => exact nil
  | cons element rest ih =>
      obtain ⟨first, later⟩ := List.forall_mem_cons.mp each
      exact first.append (ih later)

theorem spanLiteral_quotes (rest : Text) :
    spanLiteral triple (literalQuotes triple ++ rest) = some ([], rest) := by
  cases triple <;> rfl

/-- The closing quotes are those behind a piece that stands for a text. -/
theorem span_quotes (denotes : Denotes triple piece value) (rest : Text) :
    spanLiteral triple (piece ++ (literalQuotes triple ++ rest)) = some (piece, rest) := by
  rw [denotes.span, spanLiteral_quotes]
  simp

theorem unescape_eq (denotes : Denotes triple piece value) :
    Grammar.unescape piece = some value := by
  have read := denotes.unescape []
  rw [List.append_nil, Grammar.unescape, Option.map_some, List.append_nil] at read
  exact read

theorem afterStart?_append (part rest : Text) :
    Text.afterStart? part (part ++ rest) = some rest := by
  rw [Text.afterStart?, if_pos (List.isPrefixOf_iff_prefix.mpr (List.prefix_append part rest)),
    List.drop_left]

/-- A literal whose body stands for a text reads as that text. -/
theorem readLiteral_eq (denotes : Denotes triple piece value) (rest : Text) :
    readLiteral triple (literalQuotes triple ++ (piece ++ (literalQuotes triple ++ rest))) =
      some (value, rest) := by
  simp [readLiteral, afterStart?_append, denotes.span_quotes, denotes.unescape_eq]

/-! ## Symbols and escapes -/

/-- A plain symbol stands for itself. -/
theorem symbol {symbol : Symbol} (plain : Plain triple symbol) :
    Denotes triple [symbol] [symbol] where
  span rest := by
    have apart : ¬(literalQuotes triple).isPrefixOf (symbol :: rest) = true := by
      rw [List.isPrefixOf_iff_prefix]
      intro closes
      have first : literalQuotes triple = .char '"' :: (literalQuotes triple).tail := by
        cases triple <;> rfl
      rw [first, List.cons_prefix_cons] at closes
      exact plain.noQuote closes.1.symm
    rw [List.singleton_append, spanLiteral, if_neg apart, if_neg]
    · rfl
    · rcases plain.inner with rfl | inner <;> simp [*]
    · intro escaped more isEscape
      exact absurd isEscape plain.noEscape
  unescape rest := by
    rw [List.singleton_append, Grammar.unescape, if_neg plain.noEscape]
    · rfl
    · intro _ _ _ _ _ isEscape
      exact absurd isEscape plain.noEscape
    · intro _ _ isEscape
      exact absurd isEscape plain.noEscape

/-- Plain symbols stand for themselves. -/
theorem plain {text : Text} (each : ∀ symbol ∈ text, Plain triple symbol) :
    Denotes triple text text := by
  have denotes : Denotes triple (text.flatMap fun symbol => [symbol])
      (text.flatMap fun symbol => [symbol]) :=
    flatMap fun element member => symbol (each element member)
  rw [List.flatMap_singleton'] at denotes
  exact denotes

/-- An escape of one letter stands for its character. -/
theorem letter {letter : Symbol} {character : Char}
    (escape : letterEscape? letter = some character) :
    Denotes triple [.char '\\', letter] [.char character] where
  span rest := rfl
  unescape rest := by
    rw [List.cons_append, List.singleton_append, Grammar.unescape, escape]
    · cases Grammar.unescape rest <;> rfl
    · rintro first second third fourth more rfl -
      cases escape

/-- An escape of four digits stands for the code point that they name. -/
theorem codePoint {first second third fourth : Symbol} {point : Nat}
    (named : codePoint? [first, second, third, fourth] = some point)
    (each : ∀ digit ∈ [first, second, third, fourth], Plain triple digit) :
    Denotes triple [.char '\\', .char 'u', first, second, third, fourth] [.ofPoint point] where
  span rest := by
    have digits := (plain each).span rest
    simp only [List.cons_append, List.nil_append] at digits ⊢
    rw [spanLiteral, digits, Option.map_map]
    rfl
  unescape rest := by
    simp only [List.cons_append, List.nil_append]
    rw [Grammar.unescape, named]
    cases Grammar.unescape rest <;> rfl

/-- A quote stands for itself between triple quotes, unless two more stand behind it. -/
theorem quote (denotes : Denotes true piece value)
    (apart : ∀ rest, ¬['"', '"'].map Symbol.char <+: piece ++ rest) :
    Denotes true (.char '"' :: piece) (.char '"' :: value) where
  span rest := by
    have open_ : ¬(literalQuotes true).isPrefixOf (.char '"' :: (piece ++ rest)) = true := by
      rw [List.isPrefixOf_iff_prefix]
      intro closes
      exact apart rest (List.cons_prefix_cons.mp closes).2
    rw [List.cons_append, spanLiteral, if_neg open_, if_neg, denotes.span, Option.map_map]
    · rfl
    · simp
    · nofun
  unescape rest := by
    rw [List.cons_append, Grammar.unescape, if_neg, denotes.unescape, Option.map_map]
    · rfl
    all_goals nofun

end Denotes

/-! ## Hexadecimal digits -/

theorem hexValue_hexDigit :
    ∀ value < 16, Json.hexValue (Text.hexDigit value) = some value := by
  decide

instance (triple : Bool) (symbol : Symbol) : Decidable (Plain triple symbol) :=
  decidable_of_iff (symbol ≠ '"' ∧ symbol ≠ '\\' ∧ (triple = true ∨ isLineEnd symbol = false))
    ⟨fun ⟨noQuote, noEscape, inner⟩ => ⟨noQuote, noEscape, inner⟩,
      fun ⟨noQuote, noEscape, inner⟩ => ⟨noQuote, noEscape, inner⟩⟩

theorem plain_hexDigit (triple : Bool) :
    ∀ value < 16, Plain triple (.char (Text.hexDigit value)) := by
  cases triple <;> decide

/-- The digits of a number name it. -/
theorem codePoint?_hexDigits (width value : Nat) :
    codePoint? (Text.ofCharacters (Text.hexDigits width value)) = some (value % 16 ^ width) := by
  induction width generalizing value with
  | zero => simp [Text.hexDigits, Text.ofCharacters, codePoint?, Nat.mod_one]
  | succ width ih =>
      have digit := hexValue_hexDigit (value % 16) (Nat.mod_lt value (by decide))
      have split : 16 * (value / 16 % 16 ^ width) + value % 16 = value % 16 ^ (width + 1) := by
        rw [Nat.pow_succ', Nat.mod_mul]
        omega
      unfold codePoint? at ih ⊢
      rw [Text.hexDigits, Text.ofCharacters, List.map_append, List.foldlM_append,
        ← Text.ofCharacters, ih]
      simp [Symbol.char?, digit, split]

theorem plain_of_mem_hexDigits (triple : Bool) (width value : Nat) :
    ∀ digit ∈ Text.ofCharacters (Text.hexDigits width value), Plain triple digit := by
  induction width generalizing value with
  | zero => exact nofun
  | succ width ih =>
      rw [Text.hexDigits, Text.ofCharacters, List.map_append, List.forall_mem_append]
      refine ⟨ih (value / 16), List.forall_mem_singleton.mpr ?_⟩
      exact plain_hexDigit triple (value % 16) (Nat.mod_lt value (by decide))

/-- The escape of a unit stands for the symbol of the unit. -/
theorem denotes_unitEscape (triple : Bool) {unit : Nat} (bound : unit < 0x10000) :
    Denotes triple (Text.ofCharacters (Json.unitEscape unit)) [.ofPoint unit] := by
  have named := codePoint?_hexDigits 4 unit
  have whole : unit % 16 ^ 4 = unit := Nat.mod_eq_of_lt bound
  rw [whole] at named
  exact .codePoint named (plain_of_mem_hexDigits triple 4 unit)

end ProtocolBindings.Grammar
