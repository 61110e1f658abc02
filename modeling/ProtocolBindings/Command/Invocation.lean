import ProtocolBindings.Command.Arguments
import ProtocolBindings.Failure
import ProtocolBindings.Files.Commit
import ProtocolBindings.Json.Reader
import ProtocolBindings.Judgement

/-!
# Invocations

An invocation is a command line that was understood: its paths lead from the root,
and those of its inputs exist.  It can be written down again as the line that the
header of the code records, in which a path that exists is shortened to its last
name.
-/

namespace ProtocolBindings.Command

open Files (Path SystemError Tree)

/-- Why the command fails. -/
inductive CommandFailure where
  /-- The command is used wrongly. -/
  | usage (error : UsageError)
  /-- An input is not JSON. -/
  | unreadable (failure : Json.ReadFailure)
  /-- A value has the wrong JSON type. -/
  | misuse (misuse : Misuse)
  /-- The system refused a call. -/
  | system (error : SystemError)
  /-- The code cannot be judged or encoded. -/
  | fault (cause : CodeFault)
  /-- The command gives up with a message. -/
  | refused (message : Text)
deriving DecidableEq, Repr

/-- A command line that was understood. -/
structure Invocation where
  schema : Path
  output : Path
  config : Option Path := none
  version : Option String := none
  packageJson : Option Path := none
  strictReferences : Bool := false
  force : Bool := false
  verbose : Bool := false
deriving DecidableEq, Repr

/-- The path that a word gives, led from the root. -/
def pathOf (tree : Tree) (word : String) : Except CommandFailure Path :=
  let path := Path.ofText word
  if path.mentions '\x00' then .error (.system .invalidName)
  else .ok (.ofNames (path.resolveFrom tree.current))

/-- The path that a word gives, at which there must be something. -/
def inputPathOf (tree : Tree) (word : String) : Except CommandFailure Path := do
  let path ← pathOf tree word
  match tree.look path with
  | .ok _ => return path
  | .error _ => .error (.usage .missingPath)

namespace Invocation

/-- Judge the value of a setting. -/
def checkSetting (tree : Tree) (arguments : Arguments) (setting : Setting) :
    Except CommandFailure Unit :=
  match setting, arguments.value? setting with
  | .config, some word | .packageJson, some word => do
      let _ ← inputPathOf tree word
  | _, _ => .ok ()

/-- The invocation that options and operands make.  The settings are judged in the
order in which they are given, then the operands. -/
def ofArguments (tree : Tree) (arguments : Arguments) : Except CommandFailure Invocation := do
  arguments.settings.forM (checkSetting tree arguments)
  let config ← (arguments.value? .config).mapM (inputPathOf tree)
  let packageJson ← (arguments.value? .packageJson).mapM (inputPathOf tree)
  match arguments.operands with
  | [] => .error (.usage .missingOperand)
  | schema :: operands => do
      let schema ← inputPathOf tree schema
      match operands with
      | [] => .error (.usage .missingOperand)
      | output :: surplus => do
          let output ← pathOf tree output
          if surplus.isEmpty then
            return {
              schema := schema
              output := output
              config := config
              version := arguments.value? .version
              packageJson := packageJson
              strictReferences := arguments.has .strictReferences
              force := arguments.has .force
              verbose := arguments.has .verbose }
          else .error (.usage .surplusOperand)

/-- A value as the recorded line shows it: the last name of a path that exists, and
any other value in full. -/
def shown (tree : Tree) (value : String) : Except SystemError String := do
  let path := Path.ofText value
  if ← tree.isPresent path then return path.name else return value

/-- An option with its value, unless the value is missing or empty. -/
def shownSetting (tree : Tree) (name : String) (value : Option String) :
    Except SystemError (List String) :=
  match value with
  | none => .ok []
  | some value => if value.isEmpty then .ok [] else do return [name, ← shown tree value]

/-- A flag, if it is given. -/
def shownFlag (name : String) (given : Bool) : List String := if given then [name] else []

/-- The name of the command. -/
def commandName : String := "protocol_schema_to_code"

/-- The line that records an invocation: the operands, then the options in a fixed
order. -/
def line (tree : Tree) (invocation : Invocation) : Except SystemError String := do
  let schema ← shown tree invocation.schema.text
  let output ← shown tree invocation.output.text
  let config ← shownSetting tree "--config" (invocation.config.map Path.text)
  let version ← shownSetting tree "--version" invocation.version
  let packageJson ← shownSetting tree "--package-json" (invocation.packageJson.map Path.text)
  return String.intercalate " " ([commandName, schema, output] ++ config ++ version ++
    packageJson ++ shownFlag "--strict-references" invocation.strictReferences ++
    shownFlag "--force" invocation.force ++ shownFlag "--verbose" invocation.verbose)

end Invocation

/-- The line that records a run without an invocation. -/
def recordedLine (tree : Tree) : Option Invocation → Except SystemError String
  | none => .ok Invocation.commandName
  | some invocation => invocation.line tree

end ProtocolBindings.Command
