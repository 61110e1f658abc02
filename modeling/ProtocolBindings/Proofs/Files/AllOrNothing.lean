import ProtocolBindings.Proofs.Files.Commit

/-!
# Runs that write files

A run takes one step after another, each in the tree that the one before it left, whether
or not that failed.  A step writes its file as a whole or leaves all files as they are, so
that the files after a run are those before it, updated by the steps that succeeded.
-/

namespace ProtocolBindings.Files

/-- A step of a run. -/
inductive Step where
  /-- Replace a file as a whole. -/
  | replace (path : Path) (content : String) (judged : Bool)
  /-- Write a file as the options of the output say. -/
  | write (path : Path) (content : String) (output : Section OutputOptions)
  /-- Make a directory. -/
  | makeDirectory (path : Path)

namespace Step

/-- What a step does to the tree. -/
def commit (validator : Validator) : Step → Commit Unit
  | .replace path content judged => Commit.replaceFile validator path content judged
  | .write path content output => Commit.writeOutput validator path content output
  | .makeDirectory path => Commit.makeNewDirectory path

/-- The file that a step is to write. -/
def target? : Step → Option (Path × String)
  | .replace path content _ => some (path, content)
  | .write path content _ => some (path, content)
  | .makeDirectory _ => none

end Step

/-- A step that was taken: the tree before it, its ending, and the tree after it. -/
structure Stage where
  step : Step
  before : Tree
  ending : Except WriteFailure Unit
  after : Tree

namespace Stage

/-- Take a step in a tree. -/
def take (validator : Validator) (step : Step) (tree : Tree) : Stage :=
  let (ending, after) := (step.commit validator).run tree
  ⟨step, tree, ending, after⟩

/-- The file that was written, and its content. -/
def written? (stage : Stage) : Option (Location × String) :=
  match stage.ending, stage.step.target? with
  | .ok (), some (path, content) =>
      (stage.after.locate path).toOption.map fun location => (location, content)
  | _, _ => none

/-- A step that fails changes no file, and one that succeeds changes its own only, which it
gives the content it was to write. -/
structure AllOrNothing (stage : Stage) : Prop where
  failed : ∀ cause, stage.ending = .error cause →
    stage.after.content? = stage.before.content?
  wrote : stage.ending = .ok () → ∀ path content, stage.step.target? = some (path, content) →
    stage.after.readFile path = .ok content ∧
    ∃ location, stage.after.locate path = .ok location ∧
      ∀ other ≠ location, stage.after.content? other = stage.before.content? other
  wroteNothing : stage.ending = .ok () → stage.step.target? = none →
    stage.after.content? = stage.before.content?

end Stage

/-- The stages of a run. -/
def stages (validator : Validator) : Tree → List Step → List Stage
  | _, [] => []
  | tree, step :: steps =>
      let stage := Stage.take validator step tree
      stage :: stages validator stage.after steps

/-- The tree that a run leaves. -/
def treeAfter (validator : Validator) (tree : Tree) (steps : List Step) : Tree :=
  steps.foldl (fun tree step => (Stage.take validator step tree).after) tree

/-- What the files hold once a file was written. -/
def update (files : Location → Option String) (file : Location × String) :
    Location → Option String :=
  Function.update files file.1 (some file.2)

variable (validator : Validator)

/-- What a step does by itself. -/
theorem Step.ends (step : Step) (tree : Tree) :
    (step.commit validator).Ends tree
      (fun _ after => match step.target? with
        | some (path, content) => tree.Wrote path content after
        | none => after.content? = tree.content?)
      (fun _ after => after.content? = tree.content?) := by
  cases step with
  | replace path content judged =>
      exact Commit.replaceFile_ends validator path content tree judged
  | write path content output =>
      exact Commit.writeOutput_ends validator path content tree output
  | makeDirectory path =>
      exact (Commit.onlyGrows_makeNewDirectory path tree).mono
        (fun _ _ => Tree.Grows.content?) fun _ _ => Tree.Grows.content?

namespace Stage

theorem take_eq {step : Step} {tree after : Tree} {ending : Except WriteFailure Unit}
    (ended : (step.commit validator).run tree = (ending, after)) :
    take validator step tree = ⟨step, tree, ending, after⟩ := by
  rw [take, ended]

theorem allOrNothing_take (step : Step) (tree : Tree) :
    (take validator step tree).AllOrNothing := by
  have ends := step.ends validator tree
  cases ended : (step.commit validator).run tree with
  | mk ending after =>
      rw [take_eq validator ended]
      cases ending with
      | error cause => exact ⟨fun _ _ => ends.of_error ended, nofun, nofun⟩
      | ok result =>
          have known := ends.of_ok ended
          refine ⟨nofun, ?_, ?_⟩
          · intro _ path content targeted
            have wrote : tree.Wrote path content after := by
              rw [show step.target? = some (path, content) from targeted] at known
              exact known
            have read := wrote.readFile
            obtain ⟨location, located, filled⟩ := wrote
            refine ⟨read, location, located, ?_⟩
            intro other different
            rw [filled, Function.update_of_ne different]
          · intro _ untargeted
            rw [show step.target? = none from untargeted] at known
            exact known

/-- The files after a step are those before it, updated by what was written. -/
theorem content?_take (step : Step) (tree : Tree) :
    (take validator step tree).after.content? =
      (take validator step tree).written?.toList.foldl update tree.content? := by
  have ends := step.ends validator tree
  cases ended : (step.commit validator).run tree with
  | mk ending after =>
      rw [take_eq validator ended]
      cases ending with
      | error cause => exact ends.of_error ended
      | ok result =>
          have known := ends.of_ok ended
          cases targeted : step.target? with
          | none =>
              rw [targeted] at known
              simp only [written?, targeted]
              exact known
          | some target =>
              rw [targeted] at known
              obtain ⟨location, located, filled⟩ := known
              simp only [written?, targeted, located]
              exact filled

end Stage

/-- After a run the files are those before it, updated by what the steps that succeeded
wrote, one after another; and every step was taken as a whole or not at all. -/
theorem allOrNothing_of_run (tree : Tree) (steps : List Step) :
    (∀ stage ∈ stages validator tree steps, stage.AllOrNothing) ∧
    (treeAfter validator tree steps).content? =
      ((stages validator tree steps).filterMap Stage.written?).foldl update tree.content? := by
  induction steps generalizing tree with
  | nil => exact ⟨nofun, rfl⟩
  | cons step steps ih =>
      obtain ⟨each, later⟩ := ih (Stage.take validator step tree).after
      refine ⟨List.forall_mem_cons.mpr ⟨Stage.allOrNothing_take validator step tree, each⟩, ?_⟩
      have first := Stage.content?_take validator step tree
      rw [treeAfter, List.foldl_cons]
      rw [treeAfter, first] at later
      rw [later, stages, List.filterMap_cons]
      cases (Stage.take validator step tree).written? <;> rfl

/-- A file that exists is not overwritten, a file is no directory, and a new file is made
along with its directory. -/
example :
    let tree : Tree := ⟨["work"], [(["work"], .directory), (["work", "old"], .file "a")]⟩
    let steps : List Step := [
      .write (.child .here "old") "b" (.options {}),
      .replace (.child (.child .here "old") "new") "b" false,
      .replace (.child (.child .here "code") "new") "b" false]
    (stages (fun _ => .ok ()) tree steps).map Stage.written? =
        [none, none, some (["work", "code", "new"], "b")] ∧
      (treeAfter (fun _ => .ok ()) tree steps).files =
        [(["work", "code", "new"], "b"), (["work", "old"], "a")] := by
  decide +kernel

end ProtocolBindings.Files
