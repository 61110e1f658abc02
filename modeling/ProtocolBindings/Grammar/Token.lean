import ProtocolBindings.Text.Identifier

/-!
# Tokens of the generated language

Code is read as a list of tokens.  Lines matter: a logical line ends with a token
of its own, and a deeper line is enclosed by an indentation and its end.
-/

namespace ProtocolBindings.Grammar

/-- The smallest parts of code. -/
inductive Token where
  | name (text : String)
  | keyword (text : String)
  | number (imaginary : Bool)
  /-- A text literal, with the expressions that are formatted into it. -/
  | text (expressions : List (List Char))
  /-- A literal of bytes. -/
  | bytes
  /-- An operator or a bracket. -/
  | symbol (text : String)
  | lineEnd
  | indent
  | dedent
deriving DecidableEq, Repr

/-- The expressions that are formatted into a token. -/
def Token.expressions : Token → List (List Char)
  | .text expressions => expressions
  | _ => []

/-- Characters of which names are made, as far as the tokens are concerned; what
lies beyond ASCII is judged once the name is complete. -/
def isNameCharacter (character : Char) : Bool :=
  character.isAlphanum || character == '_' || 128 ≤ character.toNat

/-- Characters with which names may start. -/
def isNameStart (character : Char) : Bool :=
  character.isAlpha || character == '_' || 128 ≤ character.toNat

/-- The symbols of three, two and one characters, longer ones first. -/
def symbols : List String :=
  ["**=", "//=", ">>=", "<<=", "...", "!=", "%=", "&=", "**", "*=", "+=", "-=", "->", "//",
    "/=", ":=", "<<", "<=", "==", ">=", ">>", "@=", "^=", "|=", "%", "&", "(", ")", "*", "+",
    ",", "-", ".", "/", ":", ";", "<", "=", ">", "@", "[", "]", "^", "\x7b", "|", "\x7d", "~"]

/-- The most brackets inside one another. -/
def maxNesting : Nat := 200

/-- The bracket that closes an opening one. -/
def closing? : Char → Option Char
  | '(' => some ')'
  | '[' => some ']'
  | '\x7b' => some '\x7d'
  | _ => none

/-- Whether a character is a closing bracket. -/
def isClosing (character : Char) : Bool :=
  character == ')' || character == ']' || character == '\x7d'

/-- The brackets that have to be closed after a character, innermost first, the
brackets before it being given. -/
def trackBrackets (character : Char) (brackets : List Char) : Option (List Char) :=
  match closing? character with
  | some close => if maxNesting ≤ brackets.length then none else some (close :: brackets)
  | none =>
      if isClosing character then
        match brackets with
        | [] => none
        | expected :: outer => if expected = character then some outer else none
      else some brackets

end ProtocolBindings.Grammar
