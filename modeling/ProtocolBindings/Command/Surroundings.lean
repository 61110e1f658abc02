import ProtocolBindings.Command.Arguments
import ProtocolBindings.Files.Tree

/-!
# Surroundings

The locations at which a run may look: those on the paths that its words give.
-/

namespace ProtocolBindings.Command

open Files (Location Path)

/-- A path and the directories on the way to it. -/
def onTheWay : Path → List Path
  | .child directory name => .child directory name :: onTheWay directory
  | path => [path]

/-- The words that may name a path. -/
def Arguments.pathWords (arguments : Arguments) : List String :=
  arguments.operands ++ arguments.options.filterMap fun given =>
    match given with
    | .setting _ value => some value
    | .flag _ => none

/-- The locations on the way to a path, in a current directory. -/
def locationsToward (current : Location) (path : Path) : List Location :=
  (onTheWay path).map (Path.resolveFrom current) ++
    (onTheWay (.ofNames (path.resolveFrom current))).map Path.names

/-- The locations at which a run may look. -/
def surroundings (current : Location) (words : List String) : List Location :=
  match Arguments.ofWords words with
  | .error _ => []
  | .ok arguments =>
      (arguments.pathWords.flatMap fun word =>
        locationsToward current (.ofText word)).eraseDups

end ProtocolBindings.Command
