/-!
# Paths

A path starts at the root or where one stands and goes down name by name.
Empty names and single dots lead nowhere and are dropped; two dots are kept,
since only the directories that exist say where they lead.
-/

namespace ProtocolBindings.Files

/-- A path. -/
inductive Path where
  /-- The root. -/
  | root
  /-- The current directory. -/
  | here
  /-- What has a name in the directory at a path. -/
  | child (directory : Path) (name : String)
deriving DecidableEq, Repr

/-- The names between the slashes of a text, empty ones included. -/
def splitAtSlashes : List Char → List (List Char)
  | [] => [[]]
  | character :: rest =>
      if character = '/' then [] :: splitAtSlashes rest
      else match splitAtSlashes rest with
        | [] => [[character]]
        | name :: names => (character :: name) :: names

namespace Path

/-- The path that goes on with a name, unless the name leads nowhere. -/
def enter (path : Path) (name : List Char) : Path :=
  if name = [] ∨ name = ['.'] then path else .child path (String.ofList name)

/-- The path that a text describes. -/
def ofText (text : String) : Path :=
  let start : Path := if text.toList.head? = some '/' then .root else .here
  (splitAtSlashes text.toList).foldl enter start

/-- A path as a text. -/
def text : Path → String
  | .root => "/"
  | .here => "."
  | .child .root name => "/" ++ name
  | .child .here name => name
  | .child directory name => directory.text ++ "/" ++ name

/-- The last name of a path, empty if the path has no names. -/
def name : Path → String
  | .child _ name => name
  | _ => ""

/-- The directory in which the last name of a path is sought. -/
def parent : Path → Path
  | .child directory _ => directory
  | path => path

/-- The names of a path. -/
def names : Path → List String
  | .child directory name => directory.names ++ [name]
  | _ => []

/-- The path from the root through the given names. -/
def ofNames (names : List String) : Path := names.foldl .child .root

/-- Whether a character occurs in a name of a path. -/
def mentions (character : Char) : Path → Bool
  | .child directory name => directory.mentions character || name.toList.contains character
  | _ => false

/-- The names from the root to where a path leads from a directory, if every name
on the way is that of a directory. -/
def resolveFrom (current : List String) : Path → List String
  | .root => []
  | .here => current
  | .child directory name =>
      if name = ".." then (directory.resolveFrom current).dropLast
      else directory.resolveFrom current ++ [name]

end Path

end ProtocolBindings.Files
