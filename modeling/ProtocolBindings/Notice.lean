import ProtocolBindings.Text.Quoted

/-!
# Notices

What is reported while a schema is processed, apart from the result: dropped
enumeration values, references taken verbatim, and the progress of a run.
-/

namespace ProtocolBindings

/-- How much a notice matters. -/
inductive NoticeLevel where
  | debug
  | info
  | warning
deriving DecidableEq, Repr

/-- A remark on the way to a result. -/
inductive Notice where
  /-- An enumeration value was dropped because it had occurred before. -/
  | duplicateValue (value path : Text)
  /-- The definitions of a document were read. -/
  | definitionsRead (count : Nat)
  /-- A reference that is not well-formed was taken as a name. -/
  | malformedReference (reference path : Text)
  /-- A schema was resolved. -/
  | schemaResolved (entities requests events : Nat)
  /-- Formatting was asked for, and there is no formatter. -/
  | formatterAbsent
  /-- A module was generated at a path. -/
  | moduleGenerated (path : Text)
deriving DecidableEq, Repr

namespace Notice

/-- How much a notice matters. -/
def level : Notice → NoticeLevel
  | .duplicateValue _ _ => .warning
  | .definitionsRead _ => .debug
  | .malformedReference _ _ => .warning
  | .schemaResolved _ _ _ => .info
  | .formatterAbsent => .warning
  | .moduleGenerated _ => .info

/-- The name of the part of the tool under which a notice is logged. -/
def source : Notice → String
  | .duplicateValue _ _ | .definitionsRead _ =>
      "protocol_schema_to_code.pipeline.schema_ast.parser"
  | .malformedReference _ _ =>
      "protocol_schema_to_code.pipeline.analyzer.reference_resolver"
  | .schemaResolved _ _ _ => "protocol_schema_to_code.pipeline.analyzer.analyzer"
  | .formatterAbsent => "protocol_schema_to_code.pipeline.formatters.black_formatter"
  | .moduleGenerated _ => "protocol_schema_to_code.pipeline.generator"

/-- The wording of a notice. -/
def message : Notice → Text
  | .duplicateValue value path =>
      "Duplicate enum value " ++ Text.quoted value ++ " dropped at " ++ path
  | .definitionsRead count => "Parsed " ++ Nat.repr count ++ " definitions"
  | .malformedReference reference path =>
      "Malformed $ref " ++ Text.quoted reference ++ " at " ++ path ++ ", using it verbatim"
  | .schemaResolved entities requests events =>
      "Resolved " ++ Nat.repr entities ++ " entities, " ++ Nat.repr requests ++
        " requests and " ++ Nat.repr events ++ " events"
  | .formatterAbsent => "black is not installed, skipping formatting"
  | .moduleGenerated path => "Generated " ++ path

end Notice

/-- The word for a level in a log line. -/
def NoticeLevel.word : NoticeLevel → String
  | .debug => "DEBUG"
  | .info => "INFO"
  | .warning => "WARNING"

/-- A notice as a line of the log. -/
def Notice.line (notice : Notice) : Text :=
  notice.level.word ++ " " ++ notice.source ++ ": " ++ notice.message

end ProtocolBindings
