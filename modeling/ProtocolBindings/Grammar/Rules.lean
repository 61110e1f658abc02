import ProtocolBindings.Bindings.Identifier
import ProtocolBindings.Grammar.Lexer
import ProtocolBindings.Grammar.Pattern

/-!
# Rules of the generated language

The grammar of the code that bindings are written in: expressions, the targets of
assignments, parameters and arguments, and the statements that a module may hold.
Operators need no precedence here, for it does not change which texts are code.

Code is a module if its tokens are statements, and if the expressions that are
formatted into its texts are expressions, to any depth.
-/

namespace ProtocolBindings.Grammar

/-- The rules of the grammar. -/
inductive Rule where
  | module | statement | simpleLine | simpleStatement | assignment | block
  | classDefinition | functionDefinition | ifStatement | elseBlock | whileStatement
  | forStatement | withStatement | withItem | tryStatement
  | matchStatement | caseBlock | casePatterns | casePattern | alternatives | closedPattern
  | openSequence | sequenceItems | sequenceItem | captureTarget | casePlace
  | signedNumber | complexNumber | caseLiteral | mappingPattern | mappingItem | classPattern
  | namedPattern
  | expression | namedExpression | yieldExpression | starExpressions | starExpression
  | starNamedExpression | disjunction | conjunction | inversion | comparison | operation
  | factor | power | primary | trailer | atom | group | listDisplay | braceDisplay
  | pairItem | slices | slice | forClauses | lambda
  | arguments | positional | keywordArguments | keywordOrStarred | keywordOrDoubleStarred
  | starTargets | starTarget | targetAtom | target | targetPrimary | singleTarget | placeTarget
  | deleteTarget | parameters | parameter | starParameters | doubleStarParameters
  | lambdaParameters | lambdaStarParameters | lambdaDoubleStarParameters
  | dottedName | importNames
deriving DecidableEq, Hashable, Repr

namespace Rule

/-- A pattern over the rules. -/
abbrev P := Pattern Rule

open Pattern

/-- A name that is no keyword. -/
def name : P := anyName

/-- The end of a line. -/
def lineEnd : P := .token fun token => token = .lineEnd

/-- Statements of a deeper block. -/
def indented (statements : P) : P :=
  sequence [.token fun token => token = .indent, statements,
    .token fun token => token = .dedent]

/-- An expression, in a place where no assignment expression may stand. -/
def plainExpression : P := sequence [.rule .expression, .notAhead (symbol ":=")]

/-- One or more patterns with commas between them, and perhaps one at the end. -/
def commaList (item : P) : P := sequence [separated "," item, optional (symbol ",")]

/-- What is assigned: an expression list or a yield. -/
def assigned : P := oneOf [.rule .yieldExpression, .rule .starExpressions]

/-- The symbols that assign in place. -/
def inPlaceSymbols : List String :=
  ["+=", "-=", "*=", "@=", "/=", "%=", "&=", "|=", "^=", "<<=", ">>=", "**=", "//="]

/-- The symbols of binary operations. -/
def operationSymbols : List String :=
  ["|", "^", "&", "<<", ">>", "+", "-", "*", "/", "//", "%", "@"]

/-- A comparison sign. -/
def comparisonSign : P := oneOf [
  anySymbol ["==", "!=", "<=", "<", ">=", ">"],
  sequence [word "not", word "in"], word "in",
  sequence [word "is", word "not"], word "is"]

/-- A literal of adjacent texts, or of adjacent bytes. -/
def textLiteral : P :=
  let text : P := .token fun token => token matches .text _
  let bytes : P := .token fun token => token = .bytes
  oneOf [sequence [oneOrMore text, .notAhead bytes], sequence [oneOrMore bytes, .notAhead text]]

/-- What can follow a primary expression inside a target. -/
def trailerAhead : P := .ahead (anySymbol ["(", "[", "."])

/-- No further part follows a target. -/
def noTrailerAhead : P := .notAhead (anySymbol ["(", "[", "."])

/-- No further part follows a name among the patterns of a case. -/
def noPatternAhead : P := .notAhead (anySymbol [".", "(", "="])

/-- A part of an object as a target. -/
def place : P := sequence [.rule .targetPrimary,
  oneOf [
    sequence [symbol ".", name, noTrailerAhead],
    sequence [symbol "[", .rule .slices, symbol "]", noTrailerAhead]]]

/-- A parameter list over a parameter, its end, and what may follow a star. -/
def parameterList (parameter close starred doubleStarred : P) : P :=
  let endOfParameter : P := oneOf [symbol ",", .ahead close]
  let default : P := sequence [symbol "=", .rule .expression]
  let plain : P := sequence [parameter, endOfParameter]
  let withDefault : P := sequence [parameter, default, endOfParameter]
  let slash : P := sequence [symbol "/", endOfParameter]
  let rest : P := optional (oneOf [starred, doubleStarred])
  oneOf [
    sequence [oneOrMore plain, slash, .many plain, .many withDefault, rest],
    sequence [.many plain, oneOrMore withDefault, slash, .many withDefault, rest],
    sequence [oneOrMore plain, .many withDefault, rest],
    sequence [oneOrMore withDefault, rest],
    starred,
    doubleStarred]

/-- What may follow a star among the parameters. -/
def starredParameters (parameter starParameter close doubleStarred : P) : P :=
  let endOfParameter : P := oneOf [symbol ",", .ahead close]
  let default : P := sequence [symbol "=", .rule .expression]
  let perhapsDefault : P := sequence [parameter, optional default, endOfParameter]
  oneOf [
    sequence [symbol "*", starParameter, endOfParameter, .many perhapsDefault,
      optional doubleStarred],
    sequence [symbol "*", symbol ",", oneOrMore perhapsDefault, optional doubleStarred]]

/-- What may follow a double star among the parameters. -/
def doubleStarredParameters (parameter close : P) : P :=
  sequence [symbol "**", parameter, oneOf [symbol ",", .ahead close]]

/-- The rest of an argument list, after a first argument without name. -/
def furtherArguments : P := sequence [
  .many (sequence [symbol ",", .rule .positional]),
  optional (sequence [symbol ",", .rule .keywordArguments]),
  optional (symbol ",")]

/-- What each rule stands for. -/
def body : Rule → P
  | .module => .many (.rule .statement)
  | .statement => oneOf [
      .rule .classDefinition, .rule .functionDefinition, .rule .ifStatement,
      .rule .whileStatement, .rule .forStatement, .rule .withStatement,
      .rule .tryStatement, .rule .matchStatement, .rule .simpleLine]
  | .simpleLine => sequence [separated ";" (.rule .simpleStatement), optional (symbol ";"),
      lineEnd]
  | .simpleStatement => oneOf [
      .rule .assignment,
      .rule .starExpressions,
      sequence [word "return", optional (.rule .starExpressions)],
      sequence [word "import", separated ","
        (sequence [.rule .dottedName, optional (sequence [word "as", name])])],
      sequence [word "from", .many (anySymbol [".", "..."]), .rule .dottedName,
        word "import", .rule .importNames],
      sequence [word "from", oneOrMore (anySymbol [".", "..."]), word "import",
        .rule .importNames],
      sequence [word "raise", optional (sequence [.rule .expression,
        optional (sequence [word "from", .rule .expression])])],
      word "pass",
      sequence [word "del", commaList (.rule .deleteTarget),
        .ahead (oneOf [symbol ";", lineEnd])],
      .rule .yieldExpression,
      sequence [word "assert", .rule .expression,
        optional (sequence [symbol ",", .rule .expression])],
      word "break",
      word "continue",
      sequence [word "global", separated "," name],
      sequence [word "nonlocal", separated "," name]]
  | .assignment => oneOf [
      sequence [
        oneOf [
          sequence [name, symbol ":"],
          sequence [oneOf [sequence [symbol "(", .rule .singleTarget, symbol ")"],
            .rule .placeTarget], symbol ":"]],
        .rule .expression, optional (sequence [symbol "=", assigned])],
      sequence [oneOrMore (sequence [.rule .starTargets, symbol "="]), assigned,
        .notAhead (symbol "=")],
      sequence [.rule .singleTarget, anySymbol inPlaceSymbols, assigned]]
  | .block => oneOf [
      sequence [lineEnd, indented (oneOrMore (.rule .statement))],
      .rule .simpleLine]
  | .classDefinition => sequence [
      .many (sequence [symbol "@", .rule .namedExpression, lineEnd]),
      word "class", name,
      optional (sequence [symbol "(", optional (.rule .arguments), symbol ")"]),
      symbol ":", .rule .block]
  | .functionDefinition => sequence [
      .many (sequence [symbol "@", .rule .namedExpression, lineEnd]),
      optional (word "async"), word "def", name,
      symbol "(", optional (.rule .parameters), symbol ")",
      optional (sequence [symbol "->", .rule .expression]), symbol ":", .rule .block]
  | .ifStatement => sequence [word "if", .rule .namedExpression, symbol ":", .rule .block,
      .many (sequence [word "elif", .rule .namedExpression, symbol ":", .rule .block]),
      optional (.rule .elseBlock)]
  | .elseBlock => sequence [word "else", symbol ":", .rule .block]
  | .whileStatement => sequence [word "while", .rule .namedExpression, symbol ":",
      .rule .block, optional (.rule .elseBlock)]
  | .forStatement => sequence [optional (word "async"), word "for", .rule .starTargets,
      word "in", .rule .starExpressions, symbol ":", .rule .block, optional (.rule .elseBlock)]
  | .withStatement => sequence [optional (word "async"), word "with",
      oneOf [
        sequence [symbol "(", commaList (.rule .withItem), symbol ")", symbol ":"],
        sequence [separated "," (.rule .withItem), symbol ":"]],
      .rule .block]
  | .withItem => oneOf [
      sequence [.rule .expression, word "as", .rule .starTarget,
        .ahead (anySymbol [",", ")", ":"])],
      .rule .expression]
  | .tryStatement =>
      let cleanup : P := sequence [word "finally", symbol ":", .rule .block]
      let handler (star : P) : P := sequence [word "except", star, .rule .expression,
        optional (sequence [word "as", name]), symbol ":", .rule .block]
      let catchAll : P := sequence [word "except", symbol ":", .rule .block]
      sequence [word "try", symbol ":", .rule .block,
        oneOf [
          cleanup,
          sequence [
            oneOf [oneOrMore (handler (symbol "*")),
              oneOrMore (oneOf [handler .nothing, catchAll])],
            optional (.rule .elseBlock), optional cleanup]]]
  | .matchStatement => sequence [word "match",
      oneOf [
        sequence [.rule .starNamedExpression, symbol ",",
          optional (commaList (.rule .starNamedExpression))],
        .rule .namedExpression],
      symbol ":", lineEnd, indented (oneOrMore (.rule .caseBlock))]
  | .caseBlock => sequence [word "case", .rule .casePatterns,
      optional (sequence [word "if", .rule .namedExpression]), symbol ":", .rule .block]
  | .casePatterns => oneOf [.rule .openSequence, .rule .casePattern]
  | .casePattern => oneOf [
      sequence [.rule .alternatives, word "as", .rule .captureTarget],
      .rule .alternatives]
  | .alternatives => separated "|" (.rule .closedPattern)
  | .closedPattern => oneOf [
      .rule .caseLiteral,
      .rule .captureTarget,
      word "_",
      sequence [.rule .casePlace, noPatternAhead],
      sequence [symbol "(", .rule .casePattern, symbol ")"],
      sequence [symbol "[", optional (.rule .sequenceItems), symbol "]"],
      sequence [symbol "(", optional (.rule .openSequence), symbol ")"],
      .rule .mappingPattern,
      .rule .classPattern]
  | .openSequence => sequence [.rule .sequenceItem, symbol ",", optional (.rule .sequenceItems)]
  | .sequenceItems => commaList (.rule .sequenceItem)
  | .sequenceItem => oneOf [
      sequence [symbol "*", oneOf [.rule .captureTarget, word "_"]],
      .rule .casePattern]
  | .captureTarget => sequence [nameExcept "_", noPatternAhead]
  | .casePlace => sequence [name, oneOrMore (sequence [symbol ".", name])]
  | .signedNumber => sequence [optional (symbol "-"), .token fun token => token matches .number _]
  | .complexNumber => sequence [optional (symbol "-"), .token fun token => token = .number false,
      anySymbol ["+", "-"], .token fun token => token = .number true]
  | .caseLiteral => oneOf [
      sequence [.rule .signedNumber, .notAhead (anySymbol ["+", "-"])],
      .rule .complexNumber, textLiteral, word "None", word "True", word "False"]
  | .mappingPattern =>
      let others : P := sequence [symbol "**", .rule .captureTarget, optional (symbol ",")]
      let items : P := separated "," (.rule .mappingItem)
      sequence [symbol "\x7b", oneOf [
        symbol "\x7d",
        sequence [others, symbol "\x7d"],
        sequence [items, symbol ",", others, symbol "\x7d"],
        sequence [items, optional (symbol ","), symbol "\x7d"]]]
  | .mappingItem => sequence [oneOf [.rule .caseLiteral, .rule .casePlace], symbol ":",
      .rule .casePattern]
  | .classPattern =>
      let positional : P := separated "," (.rule .casePattern)
      let named : P := separated "," (.rule .namedPattern)
      sequence [separated "." name, symbol "(", oneOf [
        symbol ")",
        sequence [positional, optional (symbol ","), symbol ")"],
        sequence [named, optional (symbol ","), symbol ")"],
        sequence [positional, symbol ",", named, optional (symbol ","), symbol ")"]]]
  | .namedPattern => sequence [name, symbol "=", .rule .casePattern]
  | .expression => oneOf [
      sequence [.rule .disjunction,
        optional (sequence [word "if", .rule .disjunction, word "else", .rule .expression])],
      .rule .lambda]
  | .namedExpression => oneOf [
      sequence [name, symbol ":=", .rule .expression],
      plainExpression]
  | .yieldExpression => sequence [word "yield", oneOf [
      sequence [word "from", .rule .expression],
      optional (.rule .starExpressions)]]
  | .starExpressions => commaList (.rule .starExpression)
  | .starExpression => oneOf [sequence [symbol "*", .rule .operation], .rule .expression]
  | .starNamedExpression => oneOf [
      sequence [symbol "*", .rule .operation], .rule .namedExpression]
  | .disjunction => sequence [.rule .conjunction,
      .many (sequence [word "or", .rule .conjunction])]
  | .conjunction => sequence [.rule .inversion,
      .many (sequence [word "and", .rule .inversion])]
  | .inversion => oneOf [sequence [word "not", .rule .inversion], .rule .comparison]
  | .comparison => sequence [.rule .operation,
      .many (sequence [comparisonSign, .rule .operation])]
  | .operation => sequence [.rule .factor,
      .many (sequence [anySymbol operationSymbols, .rule .factor])]
  | .factor => oneOf [sequence [anySymbol ["+", "-", "~"], .rule .factor], .rule .power]
  | .power => sequence [optional (word "await"), .rule .primary,
      optional (sequence [symbol "**", .rule .factor])]
  | .primary => sequence [.rule .atom, .many (.rule .trailer)]
  | .trailer => oneOf [
      sequence [symbol ".", name],
      sequence [symbol "[", .rule .slices, symbol "]"],
      sequence [symbol "(", symbol ")"],
      sequence [symbol "(", .rule .namedExpression, .notAhead (symbol "="),
        oneOf [.rule .forClauses, furtherArguments], symbol ")"],
      sequence [symbol "(", .rule .arguments, symbol ")"]]
  | .atom => oneOf [
      name, word "True", word "False", word "None", textLiteral,
      .token fun token => token matches .number _,
      .rule .group, .rule .listDisplay, .rule .braceDisplay, symbol "..."]
  | .group =>
      let further : P := sequence [symbol ",", optional (commaList (.rule .starNamedExpression))]
      sequence [symbol "(", oneOf [
        symbol ")",
        sequence [.rule .yieldExpression, symbol ")"],
        sequence [symbol "*", .rule .operation, further, symbol ")"],
        sequence [.rule .namedExpression,
          oneOf [.rule .forClauses, further, .nothing], symbol ")"]]]
  | .listDisplay =>
      let further : P := sequence [.many (sequence [symbol ",", .rule .starNamedExpression]),
        optional (symbol ",")]
      sequence [symbol "[", oneOf [
        symbol "]",
        sequence [symbol "*", .rule .operation, further, symbol "]"],
        sequence [.rule .namedExpression, oneOf [.rule .forClauses, further], symbol "]"]]]
  | .braceDisplay => sequence [symbol "\x7b", oneOf [
      symbol "\x7d",
      sequence [.rule .expression, symbol ":", .rule .expression, .rule .forClauses,
        symbol "\x7d"],
      sequence [commaList (.rule .pairItem), symbol "\x7d"],
      sequence [.rule .namedExpression, .rule .forClauses, symbol "\x7d"],
      sequence [commaList (.rule .starNamedExpression), symbol "\x7d"]]]
  | .pairItem => oneOf [
      sequence [symbol "**", .rule .operation],
      sequence [.rule .expression, symbol ":", .rule .expression]]
  | .slices => commaList (oneOf [
      .rule .slice, sequence [symbol "*", .rule .expression]])
  | .slice =>
      let bounds : P := sequence [symbol ":", optional (.rule .expression),
        optional (sequence [symbol ":", optional (.rule .expression)])]
      oneOf [
        sequence [name, symbol ":=", .rule .expression],
        bounds,
        sequence [.rule .expression, optional bounds]]
  | .forClauses => oneOrMore (sequence [optional (word "async"), word "for", .rule .starTargets,
      word "in", .rule .disjunction, .many (sequence [word "if", .rule .disjunction])])
  | .lambda => sequence [word "lambda", optional (.rule .lambdaParameters), symbol ":",
      .rule .expression]
  | .arguments => oneOf [
      sequence [.rule .positional, furtherArguments],
      sequence [.rule .keywordArguments, optional (symbol ",")]]
  | .positional => oneOf [
      sequence [symbol "*", .rule .expression],
      sequence [.rule .namedExpression, .notAhead (symbol "=")]]
  | .keywordArguments => oneOf [
      sequence [separated "," (.rule .keywordOrStarred),
        optional (sequence [symbol ",", separated "," (.rule .keywordOrDoubleStarred)])],
      separated "," (.rule .keywordOrDoubleStarred)]
  | .keywordOrStarred => oneOf [
      sequence [name, symbol "=", .rule .expression],
      sequence [symbol "*", .rule .expression]]
  | .keywordOrDoubleStarred => oneOf [
      sequence [name, symbol "=", .rule .expression],
      sequence [symbol "**", .rule .expression]]
  | .starTargets => commaList (.rule .starTarget)
  | .starTarget => oneOf [
      sequence [symbol "*", .rule .target],
      .rule .target]
  | .target => oneOf [place, .rule .targetAtom]
  | .targetAtom => oneOf [
      name,
      sequence [symbol "(", .rule .target, symbol ")"],
      sequence [symbol "(", .rule .starTarget, symbol ",",
        optional (commaList (.rule .starTarget)), symbol ")"],
      sequence [symbol "(", symbol ")"],
      sequence [symbol "[", optional (commaList (.rule .starTarget)), symbol "]"]]
  | .targetPrimary => sequence [.rule .atom, trailerAhead,
      .many (sequence [.rule .trailer, trailerAhead])]
  | .placeTarget => place
  | .singleTarget => oneOf [
      place, name, sequence [symbol "(", .rule .singleTarget, symbol ")"]]
  | .deleteTarget => oneOf [
      place,
      name,
      sequence [symbol "(", optional (commaList (.rule .deleteTarget)), symbol ")"],
      sequence [symbol "[", optional (commaList (.rule .deleteTarget)), symbol "]"]]
  | .parameters => parameterList (.rule .parameter) (symbol ")") (.rule .starParameters)
      (.rule .doubleStarParameters)
  | .parameter => sequence [name, optional (sequence [symbol ":", .rule .expression])]
  | .starParameters => starredParameters (.rule .parameter)
      (sequence [name, optional (sequence [symbol ":", .rule .starExpression])])
      (symbol ")") (.rule .doubleStarParameters)
  | .doubleStarParameters => doubleStarredParameters (.rule .parameter) (symbol ")")
  | .lambdaParameters => parameterList name (symbol ":") (.rule .lambdaStarParameters)
      (.rule .lambdaDoubleStarParameters)
  | .lambdaStarParameters => starredParameters name name (symbol ":")
      (.rule .lambdaDoubleStarParameters)
  | .lambdaDoubleStarParameters => doubleStarredParameters name (symbol ":")
  | .dottedName => separated "." name
  | .importNames =>
      let imported : P := sequence [name, optional (sequence [word "as", name])]
      oneOf [
        symbol "*",
        sequence [symbol "(", commaList imported, symbol ")"],
        separated "," imported]

end Rule

/-! ## Modules -/

/-- What an expression of a formatted text is read as: the same in parentheses, so that
it may run over several lines. -/
def enclosed (expression : List Char) : List Char := '(' :: expression ++ [')']

/-- Whether code is what a pattern stands for, and what is formatted into its texts are
expressions.  The depth bounds how deep formatted texts lie inside one another. -/
def accepts : (depth : Nat) → Pattern Rule → List Char → Bool
  | 0, _, _ => false
  | depth + 1, pattern, code =>
      match tokens? code with
      | none => false
      | some tokens =>
          Pattern.readsAll Rule.body pattern tokens &&
            (tokens.flatMap Token.expressions).all fun expression =>
              accepts depth (.both (.rule .starExpressions) Rule.lineEnd) (enclosed expression)

/-- Whether a text is a module of the generated language. -/
def isModule (code : List Char) : Bool :=
  accepts (code.length + 1) (.rule .module) code

end ProtocolBindings.Grammar
