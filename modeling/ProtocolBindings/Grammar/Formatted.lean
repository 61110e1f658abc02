import ProtocolBindings.Grammar.Escape

/-!
# Formatted texts

A formatted text has expressions in braces between its characters.  An expression may
be followed by an equals sign, by a conversion, and by a format, which is again such a
text; a format inside a format has no expressions.  Outside formats a brace that
stands for itself is doubled.
-/

namespace ProtocolBindings.Grammar

/-- What was read, with a character in front of it. -/
def prepend (character : Char) (read : Option (List Char × List Char)) :
    Option (List Char × List Char) :=
  read.map fun (characters, rest) => (character :: characters, rest)

/-- Whether a character is a brace. -/
def isBrace (character : Char) : Bool := character == '\x7b' || character == '\x7d'

/-- The characters in front of the next expression, or of the brace that ends a format,
and the rest from that brace on.  The name of a character in braces is no expression;
`naming` says that it is being read. -/
def spanPlain (isRaw inFormat : Bool) : (naming : Bool) → List Char →
    Option (List Char × List Char)
  | _, [] => some ([], [])
  | true, character :: rest =>
      prepend character (spanPlain isRaw inFormat (character != '\x7d') rest)
  | false, '\\' :: escaped :: rest =>
      if isRaw || isBrace escaped then
        prepend '\\' (spanPlain isRaw inFormat false (escaped :: rest))
      else
        prepend '\\' (prepend escaped
          (spanPlain isRaw inFormat (escaped == 'N' && rest.head? == some '\x7b') rest))
  | false, character :: rest =>
      if !isBrace character then prepend character (spanPlain isRaw inFormat false rest)
      else if inFormat then some ([], character :: rest)
      else match rest with
        | next :: rest =>
            if next == character then prepend character (spanPlain isRaw inFormat false rest)
            else if character == '\x7b' then some ([], character :: next :: rest)
            else none
        | [] => if character == '\x7b' then some ([], [character]) else none

/-- The quotes around a text inside an expression. -/
structure Quotes where
  mark : Char
  triple : Bool
deriving DecidableEq, Repr

/-- How far an expression is read: the characters that belong to the last one, the
quotes that are open, and the brackets that have to be closed. -/
structure ExpressionScan where
  pending : Nat := 0
  quotes : Option Quotes := none
  brackets : List Char := []
deriving DecidableEq, Repr

/-- What a character is to an expression. -/
inductive Progress where
  /-- No expression can have it. -/
  | invalid
  /-- The expression ends before it. -/
  | ended
  /-- The expression goes on. -/
  | onward (scan : ExpressionScan)
deriving DecidableEq, Repr

namespace ExpressionScan

/-- A character inside quotes, and what follows it. -/
def insideQuotes (scan : ExpressionScan) (quotes : Quotes) (character : Char)
    (rest : List Char) : Progress :=
  if character != quotes.mark then .onward scan
  else if !quotes.triple then .onward { scan with quotes := none }
  else if [character, character].isPrefixOf rest then
    .onward { scan with quotes := none, pending := 2 }
  else .onward scan

/-- Signs that end an expression. -/
def isEnd (character : Char) : Bool :=
  character == '!' || character == ':' || character == '\x7d' || character == '='

/-- Signs that are part of an expression when an equals sign follows them. -/
def isComparison (character : Char) : Bool :=
  character == '!' || character == '=' || character == '<' || character == '>'

/-- A character outside quotes, and what follows it. -/
def outsideQuotes (scan : ExpressionScan) (character : Char) (rest : List Char) : Progress :=
  if character == '"' || character == '\'' then
    let triple := [character, character].isPrefixOf rest
    .onward { scan with
      quotes := some ⟨character, triple⟩
      pending := if triple then 2 else 0 }
  else if character == '#' then .invalid
  else if scan.brackets.isEmpty && isComparison character && rest.head? == some '=' then
    .onward { scan with pending := 1 }
  else if scan.brackets.isEmpty && isEnd character then .ended
  else match trackBrackets character scan.brackets with
    | some brackets => .onward { scan with brackets := brackets }
    | none => .invalid

/-- A character of an expression, and what follows it.  No expression has a
backslash. -/
def step (scan : ExpressionScan) (character : Char) (rest : List Char) : Progress :=
  if character == '\\' then .invalid
  else match scan.pending, scan.quotes with
    | pending + 1, _ => .onward { scan with pending := pending }
    | 0, some quotes => scan.insideQuotes quotes character rest
    | 0, none => scan.outsideQuotes character rest

end ExpressionScan

/-- An expression, and the rest from the sign that ends it on. -/
def spanExpression (scan : ExpressionScan) : List Char → Option (List Char × List Char)
  | [] => none
  | character :: rest =>
      match scan.step character rest with
      | .invalid => none
      | .ended => some ([], character :: rest)
      | .onward scan => prepend character (spanExpression scan rest)

/-- Whether an expression has nothing but blanks. -/
def isBlankExpression (expression : List Char) : Bool :=
  expression.all fun character =>
    character == ' ' || character == '\t' || character == '\n' || character == '\x0c'

/-- The rest after the equals sign, and the blanks behind it, that may follow an
expression. -/
def afterEquals : List Char → List Char
  | '=' :: rest => rest.dropWhile fun character =>
      character == ' ' || ('\t' ≤ character && character ≤ '\r')
  | rest => rest

/-- The rest after the conversion that may follow an expression. -/
def afterConversion : List Char → Option (List Char)
  | '!' :: rest =>
      match rest with
      | kind :: rest => if kind == 's' || kind == 'r' || kind == 'a' then some rest else none
      | [] => none
  | rest => some rest

/-- The depth of a format inside a format, which has no expressions. -/
def plainDepth : Nat := 2

/-- The expressions of a formatted text, or of a format at a depth, and the rest from
the brace on that ends the format.  Every round reads at least one character. -/
def readFormatted (isRaw : Bool) : (rounds depth : Nat) → List Char →
    Option (List (List Char) × List Char)
  | 0, _, _ => none
  | rounds + 1, depth, characters => do
      let (plain, rest) ← spanPlain isRaw (depth != 0) false characters
      if !isRaw && !completeEscapes false plain then none
      else match rest with
        | '\x7b' :: rest => do
            let (expression, rest) ← spanExpression {} rest
            if plainDepth ≤ depth || isBlankExpression expression then none
            else
              let rest ← afterConversion (afterEquals rest)
              let (formats, rest) ← match rest with
                | ':' :: rest => readFormatted isRaw rounds (depth + 1) rest
                | rest => some ([], rest)
              match rest with
              | '\x7d' :: rest => do
                  let (others, rest) ← readFormatted isRaw rounds depth rest
                  return (expression :: formats ++ others, rest)
              | _ => none
        | rest => some ([], rest)

/-- The expressions of a formatted text. -/
def formattedExpressions? (isRaw : Bool) (body : List Char) : Option (List (List Char)) :=
  match readFormatted isRaw (body.length + 1) 0 body with
  | some (expressions, []) => some expressions
  | _ => none

end ProtocolBindings.Grammar
