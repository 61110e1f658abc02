import ProtocolBindings.Text.Basic

/-!
# Lines and blanks

A text is cut at every line boundary of Unicode: line feed, carriage return
(alone or before a line feed), vertical tab, form feed, the three information
separators, next line, and the line and paragraph separators.  A boundary at
the very end opens no further line.

The characters removed from the ends of a text are the ASCII controls from tab to
carriage return and from file separator to unit separator, the space, and the
spaces and separators of Unicode.
-/

namespace ProtocolBindings.Text

/-! ## Lines -/

/-- Characters that end a line. -/
def isLineBreak (character : Char) : Bool :=
  let point := character.toNat
  (10 ≤ point && point ≤ 13) || (28 ≤ point && point ≤ 30) ||
    point == 0x85 || point == 0x2028 || point == 0x2029

/-- The lines of a text whose current line has been read up to `current`
(reversed).  A carriage return directly before a line feed is one break. -/
def linesFrom (current : Text) : Text → List Text
  | [] => if current.isEmpty then [] else [current.reverse]
  | .char '\r' :: .char '\n' :: rest => current.reverse :: linesFrom [] rest
  | symbol :: rest =>
      if symbol.is isLineBreak then current.reverse :: linesFrom [] rest
      else linesFrom (symbol :: current) rest

/-- The lines of a text, without their ends. -/
def lines (text : Text) : List Text := linesFrom [] text

/-! ## Blanks -/

/-- Blank characters: controls that separate, and every Unicode space. -/
def isBlank (character : Char) : Bool :=
  let point := character.toNat
  (9 ≤ point && point ≤ 13) || (28 ≤ point && point ≤ 32) ||
    point == 0x85 || point == 0xA0 || point == 0x1680 ||
    (0x2000 ≤ point && point ≤ 0x200A) || point == 0x2028 || point == 0x2029 ||
    point == 0x202F || point == 0x205F || point == 0x3000

/-- Remove the elements at the end that satisfy a test. -/
def dropEndWhile {α : Type} (test : α → Bool) (elements : List α) : List α :=
  (elements.reverse.dropWhile test).reverse

/-- Remove blanks at the end. -/
def stripEnd (text : Text) : Text := dropEndWhile (Symbol.is isBlank) text

/-- Remove blanks at both ends. -/
def strip (text : Text) : Text := stripEnd (text.dropWhile (Symbol.is isBlank))

end ProtocolBindings.Text
