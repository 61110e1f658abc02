import ProtocolBindings.Grammar.Number
import ProtocolBindings.Text.CharacterName

/-!
# Escapes in literals

A backslash in a literal may call for hexadecimal digits or the name of a character.
A literal of bytes knows only the shortest of these escapes.
-/

namespace ProtocolBindings.Grammar

/-- Whether the first `count` characters are hexadecimal digits. -/
def startsWithHex (count : Nat) (characters : List Char) : Bool :=
  (characters.take count).length == count && (characters.take count).all isHexDigit

/-- Whether eight hexadecimal digits name a code point. -/
def startsWithCodePoint (characters : List Char) : Bool :=
  startsWithHex 8 characters && ['0', '0'].isPrefixOf characters &&
    (['0'].isPrefixOf (characters.drop 2) ||
      ['1', '0'].isPrefixOf (characters.drop 2))

/-- Whether the name of a character stands next, in braces. -/
def startsWithName : List Char → Bool
  | '\x7b' :: rest =>
      let (name, rest) := rest.span (· != '\x7d')
      !rest.isEmpty && Text.isCharacterName name
  | _ => false

/-- Whether the escapes of a literal are complete. -/
def completeEscapes (isBytes : Bool) : List Char → Bool
  | '\\' :: escaped :: rest =>
      let complete := match escaped with
        | 'x' => startsWithHex 2 rest
        | 'u' => isBytes || startsWithHex 4 rest
        | 'U' => isBytes || startsWithCodePoint rest
        | 'N' => isBytes || startsWithName rest
        | _ => true
      complete && completeEscapes isBytes rest
  | _ :: rest => completeEscapes isBytes rest
  | [] => true

end ProtocolBindings.Grammar
