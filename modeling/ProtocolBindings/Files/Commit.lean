import ProtocolBindings.Config
import ProtocolBindings.Files.Tree
import ProtocolBindings.Judgement

/-!
# Writing code

Code replaces a file only as a whole: it is written to a file of its own beside
the target, judged there, and moved onto the target; when a step fails, that file
is removed.  Code may also be written directly, and is then judged before the
target is touched.
-/

namespace ProtocolBindings.Files

/-- Why code is not written. -/
inductive WriteFailure where
  /-- The code is not accepted. -/
  | fault (cause : CodeFault)
  /-- The output exists and is not to be overwritten. -/
  | outputExists (path : Path)
  /-- The system refused a call. -/
  | system (error : SystemError)
  /-- The options of the output are misused. -/
  | misuse (misuse : Misuse)
deriving DecidableEq, Repr

/-- The message for an output that is not to be overwritten. -/
def WriteFailure.outputExistsMessage (path : Path) : String :=
  "Output file already exists: " ++ path.text ++ ". Use force mode to overwrite."

/-- A sequence of calls on the tree.  What was done before a failure stays. -/
abbrev Commit := ExceptT WriteFailure (StateM Tree)

namespace Commit

/-- Make a call on the tree. -/
def call (attempt : Tree → Except SystemError Tree) : Commit Unit := do
  match attempt (← get) with
  | .ok tree => set tree
  | .error error => throw (.system error)

/-- Ask something of the tree. -/
def ask {α : Type} (question : Tree → Except SystemError α) : Commit α := do
  match question (← get) with
  | .ok answer => return answer
  | .error error => throw (.system error)

/-- Take what was accepted. -/
def accept {α : Type} (judged : Except CodeFault α) : Commit α :=
  match judged with
  | .ok value => return value
  | .error cause => throw (.fault cause)

/-- Make sure that there is a directory at a path, after the directories above it
if one of them is missing. -/
def ensureDirectory (path : Path) : Commit Unit := do
  let tree ← get
  match tree.makeDirectory path with
  | .ok tree => set tree
  | .error .absent =>
      match path with
      | .child directory _ => do
          ensureDirectory directory
          ensureOne path
      | _ => throw (.system .absent)
  | .error error => settle tree path error
where
  /-- A refusal to make a directory does not matter if it is there. -/
  settle (tree : Tree) (path : Path) (error : SystemError) : Commit Unit :=
    match tree.look path with
    | .ok .directory => return ()
    | _ => throw (.system error)
  /-- Make sure that there is a directory in a directory that is there. -/
  ensureOne (path : Path) : Commit Unit := do
    let tree ← get
    match tree.makeDirectory path with
    | .ok tree => set tree
    | .error .absent => throw (.system .absent)
    | .error error => settle tree path error

/-- Make a directory that is not there yet, after the directories above it if one of
them is missing. -/
def makeNewDirectory (path : Path) : Commit Unit := do
  let tree ← get
  match tree.makeDirectory path with
  | .ok tree => set tree
  | .error .absent =>
      match path with
      | .child directory _ => do
          ensureDirectory directory
          call (·.makeDirectory path)
      | _ => throw (.system .absent)
  | .error error => throw (.system error)

/-- The number of bytes that a staged name has more than the name it stands for. -/
def stagedExcess : Nat := 14

/-- A number with at least eight digits. -/
def stagedMark (number : Nat) : String :=
  let digits := Nat.repr number
  String.ofList (List.replicate (8 - digits.length) '0') ++ digits

/-- The name of a staged file. -/
def stagedName (name : String) (number : Nat) : String :=
  "." ++ name ++ "." ++ stagedMark number ++ ".tmp"

/-- The number of bytes of the path to a staged file.  It is opened from the root, wherever
one stands. -/
def stagedSize (directory : Location) (name : String) : Nat :=
  (Path.ofNames (directory ++ [stagedName name 0])).text.utf8ByteSize

/-- The first location for a staged file that is free.  As many numbers are tried
as there are nodes, and one more, so that one of them is free. -/
def stagedLocation (tree : Tree) (directory : Location) (name : String) : Option Location :=
  ((List.range (tree.nodes.length + 1)).map fun number =>
    directory ++ [stagedName name number]).find? fun location => (tree.node? location).isNone

/-- Make a new file in a directory, named after the file that it is to replace. -/
def stage (directory : Path) (name : String) : Commit Location := do
  let tree ← get
  if name.toList.contains '\x00' then throw (.system .invalidName)
  else if Tree.nameLimit < name.utf8ByteSize + stagedExcess then throw (.system .nameTooLong)
  else
    let location ← ask (·.locate directory)
    if Tree.pathLimit ≤ stagedSize location name then throw (.system .nameTooLong)
    else match stagedLocation tree location name with
    | some staged => do
        set (tree.put staged (.file ""))
        return staged
    | none => throw (.system (.occupied directory))

/-- Give a file its content. -/
def fill (location : Location) (content : String) : Commit Unit :=
  modify (·.put location (.file content))

/-- Remove a file. -/
def discard (location : Location) : Commit Unit := modify (·.erase location)

/-- Replace the file at a path by code as a whole. -/
def replaceFile (validator : Validator) (path : Path) (code : Text) (judged : Bool) :
    Commit Unit := do
  ensureDirectory path.parent
  let staged ← stage path.parent path.name
  tryCatch
    (do
      let content ← accept (encodable code)
      fill staged content
      if judged then accept (validator code)
      call (·.moveFile staged path))
    (fun failure => do
      discard staged
      throw failure)

/-- Write code to the file at a path directly.  The file is emptied before the code is
encoded. -/
def writeDirectly (validator : Validator) (path : Path) (code : Text) (judged : Bool) :
    Commit Unit := do
  if judged then accept (validator code)
  ensureDirectory path.parent
  call (·.writeFile path "")
  let content ← accept (encodable code)
  call (·.writeFile path content)

/-- Write code as the options of the output say. -/
def writeOutput (validator : Validator) (path : Path) (code : Text)
    (output : Section OutputOptions) : Commit Unit := do
  if output = .absent then throw (.misuse .absentOption)
  let present ← ask (·.isPresent path)
  match output.get with
  | .error misuse => throw (.misuse misuse)
  | .ok options =>
      if present ∧ options.mode = .errorIfExists then throw (.outputExists path)
      else if options.atomicWrite.truthy then
        replaceFile validator path code options.validateBeforeWrite.truthy
      else writeDirectly validator path code options.validateBeforeWrite.truthy

end Commit

end ProtocolBindings.Files
