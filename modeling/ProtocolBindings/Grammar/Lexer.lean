import ProtocolBindings.Bindings.Identifier
import ProtocolBindings.Grammar.Literal
import ProtocolBindings.Text.LineFeed

/-!
# From characters to tokens

The characters of a module are cut into tokens, line by line.  Empty lines and
comments leave no token; inside brackets lines do not matter; otherwise the
indentation of each line is compared with those of the enclosing blocks.
-/

namespace ProtocolBindings.Grammar

/-- The depth of a line: its column with tabs every eight columns, and with tabs
of one column.  Two lines must compare the same way in both. -/
structure Depth where
  column : Nat := 0
  narrow : Nat := 0
deriving DecidableEq, Repr

/-- The depth of a line, and the line behind it.  A backslash joins the line with the
next one; the depth is then the first column of a backslash that is not the margin. -/
def measureDepth (joined : Nat) (depth : Depth) : List Char → Option (Depth × List Char)
  | ' ' :: rest => measureDepth joined ⟨depth.column + 1, depth.narrow + 1⟩ rest
  | '\t' :: rest => measureDepth joined ⟨(depth.column / 8 + 1) * 8, depth.narrow + 1⟩ rest
  | '\x0c' :: rest => measureDepth joined {} rest
  | '\\' :: '\n' :: rest =>
      if rest.isEmpty then none
      else measureDepth (if joined = 0 then depth.column else joined) depth rest
  | rest => some (if joined = 0 then depth else ⟨joined, joined⟩, rest)

/-- The most blocks inside one another. -/
def maxDepth : Nat := 100

/-- Leave the blocks that are deeper than a line, one end for each. -/
def leaveBlocks (depth : Depth) : List Depth → Option (List Token × List Depth)
  | [] => if depth.column = 0 && depth.narrow = 0 then some ([], []) else none
  | block :: blocks =>
      if depth.column < block.column then
        (leaveBlocks depth blocks).map fun (tokens, blocks) => (.dedent :: tokens, blocks)
      else if depth.column = block.column && depth.narrow = block.narrow then
        some ([], block :: blocks)
      else none

/-- The tokens between the blocks, innermost first, and a line, with the blocks
around the line. -/
def enterLine (depth : Depth) (blocks : List Depth) : Option (List Token × List Depth) :=
  let current := blocks.head?.getD {}
  if current.column < depth.column then
    if depth.narrow ≤ current.narrow || maxDepth ≤ blocks.length + 1 then none
    else some ([.indent], depth :: blocks)
  else leaveBlocks depth blocks

/-- Whether the characters of a name beyond ASCII may stand in it. -/
def isCompleteName (name : List Char) : Bool :=
  name.all (fun character => character.toNat < 128) || Text.isIdentifier name

/-- The first symbol of a text. -/
def symbolAt? (characters : List Char) : Option String :=
  symbols.find? fun symbol => symbol.toList.isPrefixOf characters

/-- The token of a complete name. -/
def wordToken? (name : List Char) : Option Token :=
  let text := String.ofList name
  if Bindings.keywords.contains text then some (.keyword text)
  else if isCompleteName name then some (.name text)
  else none

/-- A name, or a literal with a mark before its quotes. -/
def readWord (characters : List Char) : Option (Token × List Char) :=
  let (name, rest) := characters.span isNameCharacter
  let mark := String.ofList (name.map Char.toLower)
  let quoted := rest.head? == some '"' || rest.head? == some '\''
  if quoted && textMarks.contains mark then readText mark rest
  else (wordToken? name).map fun token => (token, rest)

/-- A symbol that is no bracket, or a bracket. -/
def readSymbol (characters : List Char) : Option (Token × List Char) :=
  (symbolAt? characters).map fun symbol => (.symbol symbol, characters.drop symbol.length)

/-- The next token of a line. -/
def readToken : List Char → Option (Token × List Char)
  | [] => none
  | first :: rest =>
      if isNameStart first then readWord (first :: rest)
      else if first == '"' || first == '\'' then readText "" (first :: rest)
      else if first.isDigit || (first == '.' && rest.head?.any Char.isDigit) then
        readNumber (first :: rest)
      else readSymbol (first :: rest)

/-- The tokens of a text inside the given blocks and brackets.  Every round reads
at least one character or comes to a line. -/
def tokensFrom : (rounds : Nat) → (atStart : Bool) → (blocks : List Depth) →
    (brackets : List Char) → List Char → Option (List Token)
  | 0, _, _, _, _ => none
  | rounds + 1, true, blocks, brackets, characters => do
      let (depth, line) ← measureDepth 0 {} characters
      match line with
      | [] => return blocks.map fun _ => .dedent
      | '#' :: _ => tokensFrom rounds true blocks brackets ((Text.atLineFeed line).drop 1)
      | '\n' :: rest => tokensFrom rounds true blocks brackets rest
      | line => do
          let (tokens, blocks) ← enterLine depth blocks
          let others ← tokensFrom rounds false blocks brackets line
          return tokens ++ others
  | rounds + 1, false, blocks, brackets, characters =>
      match characters with
      | [] => none
      | ' ' :: rest => tokensFrom rounds false blocks brackets rest
      | '\t' :: rest => tokensFrom rounds false blocks brackets rest
      | '\x0c' :: rest => tokensFrom rounds false blocks brackets rest
      | '#' :: rest => tokensFrom rounds false blocks brackets (Text.atLineFeed rest)
      | '\\' :: '\n' :: rest =>
          if rest.isEmpty then none else tokensFrom rounds false blocks brackets rest
      | '\n' :: rest =>
          if brackets.isEmpty then do
            let others ← tokensFrom rounds true blocks brackets rest
            return .lineEnd :: others
          else tokensFrom rounds false blocks brackets rest
      | first :: rest => do
          let (token, others) ← readToken (first :: rest)
          let brackets ← if token matches .symbol _ then trackBrackets first brackets
            else some brackets
          let tokens ← tokensFrom rounds false blocks brackets others
          return token :: tokens

/-- The tokens of a module, unless it holds something that is no token. -/
def tokens? (characters : List Char) : Option (List Token) :=
  let lines := Text.normalizeLines characters
  tokensFrom (2 * lines.length + 2) true [] [] lines

end ProtocolBindings.Grammar
