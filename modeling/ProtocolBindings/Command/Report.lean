import ProtocolBindings.Command.Run

/-!
# Reports

What a run tells its user: the notices that it left, and why it failed.
-/

namespace ProtocolBindings.Command

/-- The line that says how the command is used. -/
def usageLine : String :=
  "Usage: " ++ Invocation.commandName ++ " [OPTIONS] SCHEMA OUTPUT"

/-- What the options of the command do. -/
def helpLines : List String := [
  usageLine,
  "",
  "  Generate Python protocol bindings from SCHEMA into OUTPUT.",
  "",
  "Options:",
  "  -c, --config PATH",
  "  --version TEXT        Schema version recorded in the output",
  "  --package-json PATH   Read the schema version from a package.json",
  "  --strict-references   Fail on malformed $ref strings",
  "  -f, --force           Overwrite an existing output file",
  "  --verbose             Enable debug logging",
  "  --help                Show this message and exit."]

/-- A usage error in words. -/
def UsageError.message : UsageError → String
  | .unknownOption => "No such option."
  | .valueMismatch => "An option requires a value, or a flag does not take one."
  | .missingPath => "A path does not exist."
  | .missingOperand => "A path is missing: SCHEMA and OUTPUT are required."
  | .surplusOperand => "Got an unexpected extra argument."

/-- A refused call in words. -/
def systemMessage : Files.SystemError → String
  | .absent => "No such file or directory"
  | .occupied path => "File exists: " ++ path.text
  | .notDirectory => "Not a directory"
  | .isDirectory => "Is a directory"
  | .busy => "Device or resource busy"
  | .nameTooLong => "File name too long"
  | .invalidName => "A path has a null character"

/-- A fault of the code in words. -/
def faultMessage : CodeFault → Text
  | .rejected message => message
  | .nullCharacter => "The code has a null character"
  | .loneHalf => "The code has half of a surrogate pair"

/-- A failure in words. -/
def CommandFailure.message : CommandFailure → Text
  | .usage error => error.message
  | .unreadable .malformed => "An input is not valid JSON"
  | .unreadable .tooManyDigits => "A number of an input has too many digits"
  | .misuse _ => "A value of an input has the wrong type"
  | .system error => systemMessage error
  | .fault cause => faultMessage cause
  | .refused message => message

/-- The lines that say how a run failed. -/
def CommandFailure.lines : CommandFailure → List Text
  | .usage error => [usageLine, "Error: " ++ error.message]
  | failure => ["Error: " ++ failure.message]

/-- The lines that a run tells. -/
def Outcome.lines (outcome : Outcome) : List Text :=
  outcome.report.map Notice.line ++
    match outcome.exit with
    | .ok () => []
    | .error failure => failure.lines

/-- The status with which a run ends. -/
def Outcome.status (outcome : Outcome) : UInt32 :=
  match outcome.exit with
  | .ok () => 0
  | .error (.usage _) => 2
  | .error _ => 1

end ProtocolBindings.Command
