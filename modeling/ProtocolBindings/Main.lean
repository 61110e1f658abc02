import ProtocolBindings.Command.Report
import ProtocolBindings.Command.Surroundings

/-!
# The command

The command runs on a picture of the files that its words name, and what the run
changed in the picture is then done to the files.
-/

namespace ProtocolBindings.Main

open Files (Location Node Path Tree)

/-- The text of a location. -/
def textOf (location : Location) : String := (Path.ofNames location).text

/-- What is at a location.  A file that cannot be read as text counts as empty. -/
def observe (location : Location) : IO (Option (Location × Node)) := do
  let path := (← IO.currentDir) / textOf location
  if ← path.isDir then return some (location, .directory)
  else if ← path.pathExists then
    try
      return some (location, .file (← IO.FS.readFile path))
    catch _ => return some (location, .file "")
  else return none

/-- A picture of the files that the words name. -/
def picture (words : List String) : IO Tree := do
  let current := (Path.ofText (← IO.currentDir).toString).names
  let seen ← (Command.surroundings current words).filterMapM observe
  return { current := current, nodes := seen }

/-- Do to one location what was done to it in a picture. -/
def apply (before : Tree) (entry : Location × Node) : IO Unit := do
  let (location, node) := entry
  if before.node? location = some node then return
  match node with
  | .directory => IO.FS.createDirAll (textOf location)
  | .file content => do
      let staged := textOf (location.dropLast ++ ["." ++ location.getLastD "" ++ ".tmp"])
      IO.FS.writeFile staged content
      IO.FS.rename staged (textOf location)

end ProtocolBindings.Main

open ProtocolBindings

/-- Run the command. -/
def main (words : List String) : IO UInt32 := do
  let before ← Main.picture words
  let outcome := Command.run before words
  outcome.tree.nodes.reverse.forM (Main.apply before)
  if Command.asksForHelp words then Command.helpLines.forM IO.println
  outcome.lines.forM fun line => IO.eprintln (Text.legible line)
  return outcome.status
