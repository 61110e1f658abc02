import ProtocolBindings.Command.Invocation
import ProtocolBindings.Generation

/-!
# Running the command

A run reads its inputs, generates the code and writes it, and changes the tree in
the last of these steps only.  Flags win over the configuration, and a version
that is given wins over that of a package.
-/

namespace ProtocolBindings.Command

open Files (Commit Path SystemError Tree WriteFailure)

/-- What a run is to generate, and where it goes. -/
structure Task where
  document : Json
  config : Config
  version : Json
  commandLine : String
  output : Path
deriving DecidableEq, Repr

/-- How a run ends, what it leaves in the tree, and what it reports. -/
structure Outcome where
  exit : Except CommandFailure Unit
  tree : Tree
  report : List Notice

/-- The JSON value in the file at a path. -/
def readJson (tree : Tree) (path : Path) : Except CommandFailure Json := do
  let content ← (tree.readFile path).mapError .system
  (Json.read content).mapError .unreadable

/-- The version that the description of a package states, empty if it states none. -/
def packageVersion (description : Json) : Except Misuse Text := do
  match Json.lookup "version" (← description.members) with
  | some version => return version.display
  | none => return ""

namespace Invocation

/-- The configuration of an invocation: what its file says, with the flags on top. -/
def configuration (tree : Tree) (invocation : Invocation) : Except CommandFailure Config := do
  let config ← match invocation.config with
    | some path => do (Config.ofJson (← readJson tree path)).mapError .misuse
    | none => pure {}
  let config := if invocation.strictReferences
    then { config with strictReferences := .bool true } else config
  if invocation.force then do
    let options ← config.output.get.mapError .misuse
    return { config with output := .options { options with mode := .force } }
  else return config

/-- The version of the schema: the one given, or else that of the package. -/
def schemaVersion (tree : Tree) (invocation : Invocation) : Except CommandFailure Text :=
  match invocation.version, invocation.packageJson with
  | some version, _ => .ok version
  | none, some path => do (packageVersion (← readJson tree path)).mapError .misuse
  | none, none => .ok ""

/-- The task of an invocation. -/
def task (tree : Tree) (invocation : Invocation) : Except CommandFailure Task := do
  let document ← readJson tree invocation.schema
  let config ← invocation.configuration tree
  let version ← invocation.schemaVersion tree
  let commandLine ← (recordedLine tree (some invocation)).mapError .system
  return ⟨document, config, .text version, commandLine, invocation.output⟩

/-- The notices that an invocation wants to see. -/
def wanted (invocation : Invocation) (notices : List Notice) : List Notice :=
  notices.filter fun notice => invocation.verbose || notice.level ≠ .debug

end Invocation

/-- The failure of a run whose schema yields no code. -/
def failureOfGeneration : Failure → CommandFailure
  | .resolution error => .refused (error.objection.kind ++ ": " ++ error.message)
  | .misuse misuse => .misuse misuse

/-- The failure of a run whose code is not written. -/
def failureOfWriting : WriteFailure → CommandFailure
  | .system (.occupied path) =>
      .refused ("[Errno 17] File exists: " ++ Text.quoted path.text)
  | .system error => .system error
  | .misuse misuse => .misuse misuse
  | .fault (.rejected message) => .refused message
  | .fault cause => .fault cause
  | .outputExists path => .refused (WriteFailure.outputExistsMessage path)

namespace Task

/-- The code of a task. -/
def generate (task : Task) : Processing Text :=
  Generation.generate task.config task.document task.version task.commandLine

/-- Write the code of a task. -/
def write (task : Task) (code : Text) : Commit Unit :=
  Commit.writeOutput Generation.validate task.output code task.config.output

/-- Generate and write the code of a task. -/
def perform (task : Task) (tree : Tree) : Outcome :=
  let generated := task.generate
  match generated.outcome with
  | .error failure => ⟨.error (failureOfGeneration failure), tree, generated.trail⟩
  | .ok code =>
      match (task.write code).run tree with
      | (.error failure, tree) => ⟨.error (failureOfWriting failure), tree, generated.trail⟩
      | (.ok (), tree) =>
          ⟨.ok (), tree, generated.trail ++ [.moduleGenerated task.output.text]⟩

end Task

namespace Invocation

/-- Run an invocation. -/
def run (invocation : Invocation) (tree : Tree) : Outcome :=
  match invocation.task tree with
  | .error failure => ⟨.error failure, tree, []⟩
  | .ok task =>
      let outcome := task.perform tree
      { outcome with report := invocation.wanted outcome.report }

end Invocation

/-- Whether the words of a command line ask for help. -/
def asksForHelp (words : List String) : Bool :=
  match Arguments.ofWords words with
  | .ok arguments => arguments.has .help
  | .error _ => false

/-- Run the command with the words of a command line.  Asking for help is no failure
and does nothing else. -/
def run (tree : Tree) (words : List String) : Outcome :=
  match Arguments.ofWords words with
  | .error error => ⟨.error (.usage error), tree, []⟩
  | .ok arguments =>
      if arguments.has .help then ⟨.ok (), tree, []⟩
      else match Invocation.ofArguments tree arguments with
        | .error failure => ⟨.error failure, tree, []⟩
        | .ok invocation => invocation.run tree

end ProtocolBindings.Command
