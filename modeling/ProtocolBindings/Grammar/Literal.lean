import ProtocolBindings.Grammar.Formatted

/-!
# Text literals of the generated language

A text stands between single or triple quotes, below a mark of letters that says
whether it is raw, formatted, or a literal of bytes.
-/

namespace ProtocolBindings.Grammar

/-- The characters of a text up to its closing quotes, and the rest.  Only a text
in triple quotes may run over several lines. -/
def spanText (quote : Char) (triple : Bool) : List Char → Option (List Char × List Char)
  | [] => none
  | '\\' :: escaped :: rest => prepend '\\' (prepend escaped (spanText quote triple rest))
  | character :: rest =>
      if character == '\n' && !triple then none
      else if character != quote then prepend character (spanText quote triple rest)
      else if !triple then some ([], rest)
      else match rest with
        | second :: third :: more =>
            if second == quote && third == quote then some ([], more)
            else prepend character (spanText quote triple rest)
        | _ => none

/-- The marks that may stand before the quotes of a literal, in small letters. -/
def textMarks : List String :=
  ["", "r", "u", "f", "b", "br", "rb", "fr", "rf"]

/-- The literal of a body below a mark. -/
def literalOf? (mark : String) (body : List Char) : Option Token :=
  let isRaw := mark.toList.contains 'r'
  if mark.toList.contains 'b' then
    if body.all (fun character => character.toNat < 128) && (isRaw || completeEscapes true body)
    then some .bytes else none
  else if mark.toList.contains 'f' then (formattedExpressions? isRaw body).map .text
  else if isRaw || completeEscapes false body then some (.text [])
  else none

/-- A literal that starts at its quotes, below the given mark, and the rest. -/
def readText (mark : String) (characters : List Char) : Option (Token × List Char) := do
  let quote ← characters.head?
  let triple := [quote, quote, quote].isPrefixOf characters
  let (body, rest) ← spanText quote triple (characters.drop (if triple then 3 else 1))
  let literal ← literalOf? mark body
  return (literal, rest)

end ProtocolBindings.Grammar
