import ProtocolBindings.Files.Path

/-!
# The file tree

The directories and files that a run sees, and the calls on them.  A call either
succeeds or fails without any effect; `content?` shows what the tree holds at a
location.
-/

namespace ProtocolBindings.Files

/-- The names from the root to a directory or file. -/
abbrev Location := List String

/-- What a location holds. -/
inductive Node where
  | directory
  | file (content : String)
deriving DecidableEq, Repr

/-- Why a call on the tree fails. -/
inductive SystemError where
  /-- Nothing is there. -/
  | absent
  /-- There is something already. -/
  | occupied (path : Path)
  /-- A file stands where the path needs a directory. -/
  | notDirectory
  /-- A directory stands where the call needs a file. -/
  | isDirectory
  /-- The root, or a directory that one stands in, cannot be replaced. -/
  | busy
  /-- A name or the whole path is too long. -/
  | nameTooLong
  /-- A name has a null character. -/
  | invalidName
deriving DecidableEq, Repr

/-- The files and directories below the root, and the current directory. -/
structure Tree where
  current : Location
  nodes : List (Location × Node)
deriving DecidableEq, Repr

namespace Tree

/-- The most bytes that a name may have. -/
def nameLimit : Nat := 255

/-- The number of bytes that the text of a path must stay below. -/
def pathLimit : Nat := 4096

/-- What a location holds; the root is always there. -/
def node? (tree : Tree) (location : Location) : Option Node :=
  if location = [] then some .directory else tree.nodes.lookup location

/-- The content of the file at a location. -/
def content? (tree : Tree) (location : Location) : Option String :=
  match tree.node? location with
  | some (.file content) => some content
  | _ => none

/-- The tree with a new node at a location. -/
def put (tree : Tree) (location : Location) (node : Node) : Tree :=
  { tree with nodes := (location, node) :: tree.nodes.filter fun entry => entry.1 ≠ location }

/-- The tree without what a location holds. -/
def erase (tree : Tree) (location : Location) : Tree :=
  { tree with nodes := tree.nodes.filter fun entry => entry.1 ≠ location }

private theorem lookup_filter_of_ne {location other : Location} (different : other ≠ location)
    (nodes : List (Location × Node)) :
    (nodes.filter fun entry => entry.1 ≠ location).lookup other = nodes.lookup other := by
  induction nodes with
  | nil => rfl
  | cons entry nodes ih =>
      obtain ⟨place, node⟩ := entry
      by_cases here : place = location
      · subst here
        have miss : (other == place) = false := by simp [different]
        simpa [List.lookup_cons, miss] using ih
      · by_cases found : other = place
        · simp [here, found]
        · have miss : (other == place) = false := by simp [found]
          simpa [List.filter_cons, here, List.lookup_cons, miss] using ih

private theorem lookup_filter_self (location : Location) (nodes : List (Location × Node)) :
    (nodes.filter fun entry => entry.1 ≠ location).lookup location = none := by
  induction nodes with
  | nil => rfl
  | cons entry nodes ih =>
      obtain ⟨place, node⟩ := entry
      by_cases here : place = location
      · simpa [List.filter_cons, here] using ih
      · have miss : (location == place) = false := by simp [Ne.symm here]
        simpa [List.filter_cons, here, List.lookup_cons, miss] using ih

/-- A new node is found where it was put. -/
theorem node?_put_self (tree : Tree) {location : Location} (node : Node)
    (below : location ≠ []) : (tree.put location node).node? location = some node := by
  simp [node?, put, below]

/-- A new node leaves the other locations as they are. -/
theorem node?_put_of_ne (tree : Tree) {location other : Location} (node : Node)
    (different : other ≠ location) :
    (tree.put location node).node? other = tree.node? other := by
  have miss : (other == location) = false := by simp [different]
  have rest := lookup_filter_of_ne different tree.nodes
  simp only [node?, put, List.lookup_cons, miss]
  rw [rest]

/-- Nothing is found where a node was erased. -/
theorem node?_erase_self (tree : Tree) {location : Location} (below : location ≠ []) :
    (tree.erase location).node? location = none := by
  have gone := lookup_filter_self location tree.nodes
  simp only [node?, erase, below, if_false]
  exact gone

/-- Erasing a node leaves the other locations as they are. -/
theorem node?_erase_of_ne (tree : Tree) {location other : Location}
    (different : other ≠ location) :
    (tree.erase location).node? other = tree.node? other := by
  have rest := lookup_filter_of_ne different tree.nodes
  simp only [node?, erase]
  rw [rest]

/-- The locations of the files, with their contents. -/
def files (tree : Tree) : List (Location × String) :=
  tree.nodes.filterMap fun (location, node) =>
    match node with
    | .file content => some (location, content)
    | .directory => none

/-- Go from a directory to a name in it, which need not be there. -/
def step (tree : Tree) (location : Location) (name : String) : Except SystemError Location :=
  match tree.node? location with
  | none => .error .absent
  | some (.file _) => .error .notDirectory
  | some .directory =>
      if name = ".." then .ok location.dropLast
      else if nameLimit < name.utf8ByteSize then .error .nameTooLong
      else .ok (location ++ [name])

/-- Go along a path; all but its last name must be there. -/
def walk (tree : Tree) : Path → Except SystemError Location
  | .root => .ok []
  | .here => .ok tree.current
  | .child directory name => do tree.step (← tree.walk directory) name

/-- The location to which a path leads. -/
def locate (tree : Tree) (path : Path) : Except SystemError Location :=
  if path.mentions '\x00' then .error .invalidName
  else if pathLimit ≤ path.text.utf8ByteSize then .error .nameTooLong
  else tree.walk path

/-- What is at a path. -/
def look (tree : Tree) (path : Path) : Except SystemError Node := do
  match tree.node? (← tree.locate path) with
  | some node => return node
  | none => .error .absent

/-- Whether there is anything at a path.  A path that leads nowhere is answered,
one that is too long is not. -/
def isPresent (tree : Tree) (path : Path) : Except SystemError Bool :=
  match tree.look path with
  | .ok _ => .ok true
  | .error .nameTooLong => .error .nameTooLong
  | .error _ => .ok false

/-- The content of the file at a path. -/
def readFile (tree : Tree) (path : Path) : Except SystemError String := do
  match ← tree.look path with
  | .file content => return content
  | .directory => .error .isDirectory

/-- Make one directory. -/
def makeDirectory (tree : Tree) (path : Path) : Except SystemError Tree := do
  let location ← tree.locate path
  match tree.node? location with
  | some _ => .error (.occupied path)
  | none => return tree.put location .directory

/-- Write a file, which is made if it is not there. -/
def writeFile (tree : Tree) (path : Path) (content : String) : Except SystemError Tree := do
  let location ← tree.locate path
  match tree.node? location with
  | some .directory => .error .isDirectory
  | _ => return tree.put location (.file content)

/-- Move a file to a path, in the place of a file that may be there. -/
def moveFile (tree : Tree) (source : Location) (target : Path) : Except SystemError Tree := do
  let location ← tree.locate target
  match target, tree.node? source with
  | .child _ name, some (.file content) =>
      if name = ".." then .error .busy
      else match tree.node? location with
        | some .directory => .error .isDirectory
        | _ => return (tree.erase source).put location (.file content)
  | _, some (.file _) => .error .busy
  | _, _ => .error .absent

end Tree

end ProtocolBindings.Files
