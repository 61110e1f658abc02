import ProtocolBindings.Text.Basic

/-!
# Line feeds

A text file may end its lines in three ways: with a line feed, with a carriage return, or with
both.  Read as text, every line ends with a line feed.  The lines of code end in these ways
only, and at no other line boundary of Unicode.
-/

namespace ProtocolBindings.Text

/-! ## Line ends as line feeds -/

/-- A text in which a carriage return, alone or before a line feed, has become a
line feed. -/
def withLineFeeds : List Char → List Char
  | [] => []
  | '\r' :: '\n' :: rest => '\n' :: withLineFeeds rest
  | '\r' :: rest => '\n' :: withLineFeeds rest
  | character :: rest => character :: withLineFeeds rest

/-- Whether a text ends with a line end of one character. -/
def endsLine (characters : List Char) : Bool :=
  match characters.reverse with
  | '\n' :: '\r' :: _ => false
  | last :: _ => last == '\n' || last == '\r'
  | [] => true

/-- A text with every line end as a line feed, and one more at its end unless it ends
with a line end of one character. -/
def normalizeLines (characters : List Char) : List Char :=
  if endsLine characters then withLineFeeds characters
  else withLineFeeds characters ++ ['\n']

/-- The rest of a text from the next line feed on. -/
def atLineFeed (characters : List Char) : List Char :=
  characters.dropWhile (· != '\n')

/-! ## Physical lines -/

/-- Symbols that end a physical line. -/
def isLineEnd (symbol : Symbol) : Bool := symbol = '\n' || symbol = '\r'

/-- Lines whose first one has a further symbol in front. -/
def extendFirst (symbol : Symbol) : List Text → List Text
  | [] => [[symbol]]
  | line :: lines => (symbol :: line) :: lines

/-- The physical lines of a text, without their ends. -/
def physicalLines : Text → List Text
  | [] => []
  | .char '\r' :: .char '\n' :: rest => [] :: physicalLines rest
  | symbol :: rest =>
      if isLineEnd symbol then [] :: physicalLines rest
      else extendFirst symbol (physicalLines rest)

end ProtocolBindings.Text
