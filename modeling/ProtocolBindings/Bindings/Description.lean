import ProtocolBindings.Failure
import ProtocolBindings.Json.Basic
import ProtocolBindings.Text.Lines

/-!
# Descriptions in the generated code

A description is written line by line, either as comments or inside a
triple-quoted text.  In the latter backslashes are doubled and three quotes in a
row are escaped, so that no description ends the text early.
-/

namespace ProtocolBindings.Bindings

/-- The lines of a text without blanks at either end of the text or at the end of
a line. -/
def trimmedLines (text : Text) : List Text :=
  (Text.lines (Text.strip text)).map Text.stripEnd

/-- The lines of a description; one that counts as false has none. -/
def descriptionLines (description : Json) : Except Misuse (List Text) :=
  if description.truthy then
    match description with
    | .text value => .ok (trimmedLines value)
    | _ => .error .nonTextDescription
  else .ok []

/-- A line with its backslashes doubled. -/
def doubleBackslashes (line : Text) : Text :=
  line.flatMap fun (symbol : Symbol) => if symbol = '\\' then "\\\\" else [symbol]

/-- A line with each three quotes in a row escaped, from left to right. -/
def escapeQuotes : Text → Text
  | .char '"' :: .char '"' :: .char '"' :: rest => "\\\"\\\"\\\"" ++ escapeQuotes rest
  | symbol :: rest => symbol :: escapeQuotes rest
  | [] => []

/-- A line as it is written inside a triple-quoted text. -/
def escapeLine (line : Text) : Text := escapeQuotes (doubleBackslashes line)

/-- A line behind an indentation; an empty line stays empty. -/
def indented (indentation line : Text) : Text :=
  if line.isEmpty then "" else indentation ++ line

/-- A line as a comment behind an indentation. -/
def commentLine (indentation line : Text) : Text :=
  if line.isEmpty then indentation ++ "#" else indentation ++ "# " ++ line

/-- A description as comments. -/
def comments (indentation : Text) (description : Json) : Except Misuse (List Text) := do
  let lines ← descriptionLines description
  return lines.map (commentLine indentation)

/-- A description as lines of a triple-quoted text. -/
def quotedLines (indentation : Text) (description : Json) : Except Misuse (List Text) := do
  let lines ← descriptionLines description
  return lines.map fun line => indented indentation (escapeLine line)

/-- A line without text. -/
def emptyLine : Text := []

/-- The quotes that open and close a text of several lines. -/
def tripleQuote : Text := "\"\"\""

end ProtocolBindings.Bindings
