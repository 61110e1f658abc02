import ProtocolBindings.Files.Commit
import ProtocolBindings.Proofs.Files.Tree

/-!
# What commits do to the tree

A commit ends with a value or a failure, and either way leaves a tree.  `Ends` states what
is known of them, and has one rule for each way of building a commit.  By these rules a
file is replaced, or written directly, either as a whole or not at all.
-/

namespace ProtocolBindings.Files.Commit

variable {α β : Type} {tree : Tree}

/-- A commit ends with a value and a tree of one kind, or with a failure and a tree of
another. -/
def Ends (commit : Commit α) (tree : Tree) (value : α → Tree → Prop)
    (failure : WriteFailure → Tree → Prop) : Prop :=
  match commit.run tree with
  | (.ok result, after) => value result after
  | (.error cause, after) => failure cause after

/-- A sequence goes on in the tree that its first part leaves, unless that fails. -/
theorem run_bind (first : Commit α) (next : α → Commit β) (tree : Tree) :
    (first >>= next).run tree =
      match first.run tree with
      | (.ok middle, after) => (next middle).run after
      | (.error cause, after) => (.error cause, after) := by
  unfold ExceptT.run
  simp only [bind, ExceptT.bind, ExceptT.mk, StateT.bind, ExceptT.bindCont]
  cases first tree with
  | mk result after => cases result <;> rfl

theorem run_tryCatch (commit : Commit α) (handler : WriteFailure → Commit α) (tree : Tree) :
    (tryCatch commit handler).run tree =
      match commit.run tree with
      | (.ok result, after) => (.ok result, after)
      | (.error cause, after) => (handler cause).run after := by
  unfold ExceptT.run
  simp only [tryCatch, tryCatchThe, MonadExceptOf.tryCatch, ExceptT.tryCatch, ExceptT.mk, bind,
    StateT.bind]
  cases commit tree with
  | mk result after => cases result <;> rfl

namespace Ends

variable {commit first : Commit α} {next : α → Commit β}
variable {value larger : α → Tree → Prop} {final : β → Tree → Prop}
variable {failure weaker : WriteFailure → Tree → Prop}

theorem of_ok (ends : Ends commit tree value failure) {result : α} {after : Tree}
    (ended : commit.run tree = (.ok result, after)) : value result after := by
  rwa [Ends, ended] at ends

theorem of_error (ends : Ends commit tree value failure) {cause : WriteFailure} {after : Tree}
    (ended : commit.run tree = (.error cause, after)) : failure cause after := by
  rwa [Ends, ended] at ends

theorem mono (ends : Ends commit tree value failure)
    (values : ∀ result after, value result after → larger result after)
    (failures : ∀ cause after, failure cause after → weaker cause after) :
    Ends commit tree larger weaker := by
  unfold Ends at ends ⊢
  split
  · rename_i ended
    rw [ended] at ends
    exact values _ _ ends
  · rename_i ended
    rw [ended] at ends
    exact failures _ _ ends

/-- A commit ends as it ends. -/
theorem self (commit : Commit α) (tree : Tree) :
    Ends commit tree (fun result after => commit.run tree = (.ok result, after))
      (fun cause after => commit.run tree = (.error cause, after)) := by
  unfold Ends
  split <;> assumption

theorem and (ends : Ends commit tree value failure) (also : Ends commit tree larger weaker) :
    Ends commit tree (fun result after => value result after ∧ larger result after)
      (fun cause after => failure cause after ∧ weaker cause after) := by
  unfold Ends at ends also ⊢
  split
  · rename_i ended
    rw [ended] at ends also
    exact ⟨ends, also⟩
  · rename_i ended
    rw [ended] at ends also
    exact ⟨ends, also⟩

protected theorem pure {result : α} (known : value result tree) :
    Ends (pure result) tree value failure := known

protected theorem throw {cause : WriteFailure} (known : failure cause tree) :
    Ends (throw cause) tree value failure := known

protected theorem bind (ends : Ends first tree
      (fun middle after => Ends (next middle) after final failure) failure) :
    Ends (first >>= next) tree final failure := by
  unfold Ends at ends ⊢
  rw [run_bind]
  split at ends
  · rename_i ended
    simpa only [ended] using ends
  · rename_i ended
    simpa only [ended] using ends

theorem get_bind {next : Tree → Commit β} (ends : Ends (next tree) tree final failure) :
    Ends (get >>= next) tree final failure := ends

protected theorem set {after : Tree} {value : PUnit → Tree → Prop} (known : value ⟨⟩ after) :
    Ends (set after) tree value failure := known

protected theorem modify {change : Tree → Tree} {value : PUnit → Tree → Prop}
    (known : value ⟨⟩ (change tree)) : Ends (modify change) tree value failure := known

/-- A failure that is caught is handled in the tree that it leaves. -/
protected theorem tryCatch {handler : WriteFailure → Commit α}
    (ends : Ends commit tree value
      (fun cause after => Ends (handler cause) after value failure)) :
    Ends (tryCatch commit handler) tree value failure := by
  unfold Ends at ends ⊢
  rw [run_tryCatch]
  split at ends
  · rename_i ended
    simpa only [ended] using ends
  · rename_i ended
    simpa only [ended] using ends

/-- A call that is refused changes nothing. -/
theorem call {attempt : Tree → Except SystemError Tree} {value : Unit → Tree → Prop}
    (made : ∀ after, attempt tree = .ok after → value () after)
    (refused : ∀ error, attempt tree = .error error → failure (.system error) tree) :
    Ends (call attempt) tree value failure := by
  apply Ends.get_bind
  split
  · exact Ends.set (made _ ‹_›)
  · exact Ends.throw (refused _ ‹_›)

theorem ask {question : Tree → Except SystemError α}
    (answered : ∀ answer, question tree = .ok answer → value answer tree)
    (refused : ∀ error, question tree = .error error → failure (.system error) tree) :
    Ends (ask question) tree value failure := by
  apply Ends.get_bind
  split
  · exact Ends.pure (answered _ ‹_›)
  · exact Ends.throw (refused _ ‹_›)

theorem accept {judged : Except CodeFault α}
    (accepted : ∀ result, judged = .ok result → value result tree)
    (rejected : ∀ cause, judged = .error cause → failure (.fault cause) tree) :
    Ends (accept judged) tree value failure := by
  unfold Commit.accept
  split
  · exact Ends.pure (accepted _ rfl)
  · exact Ends.throw (rejected _ rfl)

end Ends

/-! ## Directories -/

/-- Whether a commit makes new directories and nothing else, even if it fails. -/
def OnlyGrows (commit : Commit α) : Prop :=
  ∀ tree, Ends commit tree (fun _ after => tree.Grows after) (fun _ after => tree.Grows after)

theorem OnlyGrows.bind {first : Commit α} {next : α → Commit β} (before : OnlyGrows first)
    (after : ∀ middle, OnlyGrows (next middle)) : OnlyGrows (first >>= next) := by
  intro tree
  refine Ends.bind ((before tree).mono (fun middle grown more => ?_) fun _ _ more => more)
  exact (after middle grown).mono (fun _ _ => more.trans) (fun _ _ => more.trans)

theorem onlyGrows_settle (found : Tree) (path : Path) (error : SystemError) :
    OnlyGrows (ensureDirectory.settle found path error) := by
  intro tree
  unfold ensureDirectory.settle
  split
  · exact Ends.pure (.refl tree)
  · exact Ends.throw (.refl tree)

theorem onlyGrows_ensureOne (path : Path) : OnlyGrows (ensureDirectory.ensureOne path) := by
  intro tree
  apply Ends.get_bind
  split
  · exact Ends.set (Tree.grows_of_makeDirectory ‹_›)
  · exact Ends.throw (.refl tree)
  · exact onlyGrows_settle tree path _ tree

/-- Above a path of no names there is no directory to be made. -/
theorem ensureDirectory_of_single {path : Path}
    (single : ∀ directory name, path ≠ .child directory name) :
    ensureDirectory path = ensureDirectory.ensureOne path := by
  rw [ensureDirectory.eq_2 path single]
  rfl

theorem onlyGrows_ensureDirectory (path : Path) : OnlyGrows (ensureDirectory path) := by
  -- A directory is made after the directories above it, along the names of the path.
  induction path with
  | root | here =>
      rw [ensureDirectory_of_single (by simp)]
      exact onlyGrows_ensureOne _
  | child directory name ih =>
      intro tree
      rw [ensureDirectory]
      apply Ends.get_bind
      split
      · exact Ends.set (Tree.grows_of_makeDirectory ‹_›)
      · exact ih.bind (fun _ => onlyGrows_ensureOne _) tree
      · exact onlyGrows_settle tree _ _ tree

theorem settle_found (found : Tree) (path : Path) (error : SystemError) (tree : Tree) :
    Ends (ensureDirectory.settle found path error) tree
      (fun _ after => after = tree ∧ found.look path = .ok .directory) (fun _ _ => True) := by
  unfold ensureDirectory.settle
  split
  · exact Ends.pure ⟨rfl, ‹_›⟩
  · exact Ends.throw trivial

theorem ensureOne_found (path : Path) (tree : Tree) :
    Ends (ensureDirectory.ensureOne path) tree
      (fun _ after => after.look path = .ok .directory) (fun _ _ => True) := by
  apply Ends.get_bind
  split
  · exact Ends.set (Tree.look_of_makeDirectory ‹_›)
  · exact Ends.throw trivial
  · refine (settle_found tree path _ tree).mono ?_ fun _ _ known => known
    rintro _ _ ⟨rfl, found⟩
    exact found

/-- A directory that was to be there is there. -/
theorem ensureDirectory_found (path : Path) (tree : Tree) :
    Ends (ensureDirectory path) tree
      (fun _ after => after.look path = .ok .directory) (fun _ _ => True) := by
  cases path with
  | root | here =>
      rw [ensureDirectory_of_single (by simp)]
      exact ensureOne_found _ tree
  | child directory name =>
      rw [ensureDirectory]
      apply Ends.get_bind
      split
      · exact Ends.set (Tree.look_of_makeDirectory ‹_›)
      · refine Ends.bind ((Ends.self _ tree).mono ?_ fun _ _ _ => trivial)
        exact fun _ grown _ => ensureOne_found _ grown
      · refine (settle_found tree _ _ tree).mono ?_ fun _ _ known => known
        rintro _ _ ⟨rfl, found⟩
        exact found

theorem onlyGrows_makeNewDirectory (path : Path) : OnlyGrows (makeNewDirectory path) := by
  intro tree
  apply Ends.get_bind
  split
  · exact Ends.set (Tree.grows_of_makeDirectory ‹_›)
  · split
    · rename_i directory name _
      refine (onlyGrows_ensureDirectory directory).bind (fun _ grown => ?_) tree
      exact Ends.call (fun _ => Tree.grows_of_makeDirectory) fun _ _ => .refl grown
    · exact Ends.throw (.refl tree)
  · exact Ends.throw (.refl tree)

/-! ## Staged files -/

theorem node?_stagedLocation {directory staged : Location} {name : String}
    (found : stagedLocation tree directory name = some staged) : tree.node? staged = none := by
  have free := List.find?_some found
  exact Option.isNone_iff_eq_none.mp free

/-- A staged file is new. -/
theorem stage_ends (directory : Path) (name : String) (tree : Tree) :
    Ends (stage directory name) tree
      (fun staged after => tree.node? staged = none ∧ after = tree.put staged (.file ""))
      (fun _ after => after = tree) := by
  apply Ends.get_bind
  split
  · exact Ends.throw rfl
  · split
    · exact Ends.throw rfl
    · refine Ends.bind (Ends.ask (fun location _ => ?_) fun _ _ => rfl)
      split
      · exact Ends.throw rfl
      · split
        · rename_i staged found
          exact Ends.bind (Ends.set (Ends.pure ⟨node?_stagedLocation found, rfl⟩))
        · exact Ends.throw rfl

/-! ## Writing -/

/-- Judge code if it is to be judged. -/
def judge (validator : Validator) (code : Text) (judged : Bool) : Commit Unit :=
  if judged then accept (validator code) else return ()

/-- Whether code passes the judgement that it is to undergo. -/
def Accepted (validator : Validator) (code : Text) (judged : Bool) : Prop :=
  judged = true → validator code = .ok ()

theorem judge_ends (validator : Validator) (code : Text) (judged : Bool) (tree : Tree) :
    Ends (judge validator code judged) tree
      (fun _ after => after = tree ∧ Accepted validator code judged)
      (fun _ after => after = tree ∧ ¬ Accepted validator code judged) := by
  cases judged with
  | false => exact Ends.pure ⟨rfl, nofun⟩
  | true =>
      refine Ends.accept (fun _ passed => ⟨rfl, fun _ => passed⟩) fun cause refused => ?_
      refine ⟨rfl, fun accepted => ?_⟩
      rw [accepted rfl] at refused
      cases refused

theorem replaceFile_eq (validator : Validator) (path : Path) (code : Text) (judged : Bool) :
    replaceFile validator path code judged = (do
      ensureDirectory path.parent
      let staged ← stage path.parent path.name
      tryCatch
        (do
          let content ← accept (encodable code)
          fill staged content
          judge validator code judged
          call (·.moveFile staged path))
        (fun failure => do
          discard staged
          throw failure)) := by
  cases judged <;> rfl

theorem writeDirectly_eq (validator : Validator) (path : Path) (code : Text) (judged : Bool) :
    writeDirectly validator path code judged = (do
      judge validator code judged
      ensureDirectory path.parent
      call (·.writeFile path "")
      let content ← accept (encodable code)
      call (·.writeFile path content)) := by
  cases judged <;> rfl

theorem encodable_ends {content : String} {value : String → Tree → Prop}
    {failure : WriteFailure → Tree → Prop} (known : value content tree) :
    Ends (accept (encodable (Text.ofString content))) tree value failure := by
  rw [encodable_ofString]
  exact Ends.pure known

section

variable (validator : Validator) (path : Path) (content : String) (tree : Tree)

/-- Once a staged file is there, it is moved to the path, or removed again. -/
theorem staged_ends {staged : Location} (judged : Bool) (free : tree.node? staged = none) :
    Ends
      (tryCatch
        (do
          let encoded ← accept (encodable (Text.ofString content))
          fill staged encoded
          judge validator (Text.ofString content) judged
          call (·.moveFile staged path))
        (fun failure => do
          discard staged
          throw failure) : Commit Unit)
      (tree.put staged (.file ""))
      (fun _ after => Accepted validator (Text.ofString content) judged ∧
        ((tree.put staged (.file "")).put staged (.file content)).moveFile staged path = .ok after)
      (fun _ after => after.content? = tree.content? ∧
        (Accepted validator (Text.ofString content) judged → ∃ error,
          ((tree.put staged (.file "")).put staged (.file content)).moveFile staged path =
            .error error)) := by
  have filled := (Tree.Staged.of_put "" free).put content
  refine Ends.tryCatch (Ends.bind (encodable_ends (Ends.bind (Ends.modify (Ends.bind ?_)))))
  have discarded := Tree.content?_of_node? filled.erase
  refine (judge_ends validator _ judged _).mono ?_ ?_
  · rintro _ _ ⟨rfl, accepted⟩
    refine Ends.call (fun after moved => ⟨accepted, moved⟩) fun error refused => ?_
    exact Ends.bind (Ends.modify (Ends.throw ⟨discarded, fun _ => ⟨error, refused⟩⟩))
  · rintro cause _ ⟨rfl, rejected⟩
    refine Ends.bind (Ends.modify (Ends.throw ⟨discarded, fun accepted => ?_⟩))
    exact absurd accepted rejected

/-- A file is replaced by the code, or all files are left as they are. -/
theorem replaceFile_ends (judged : Bool) :
    Ends (replaceFile validator path (Text.ofString content) judged) tree
      (fun _ after => tree.Wrote path content after)
      (fun _ after => after.content? = tree.content?) := by
  rw [replaceFile_eq]
  refine Ends.bind ((onlyGrows_ensureDirectory path.parent tree).mono ?_ ?_)
  · rintro _ grown grows
    refine Ends.bind ((stage_ends path.parent path.name grown).mono ?_ ?_)
    · rintro staged _ ⟨free, rfl⟩
      refine (staged_ends validator path content grown judged free).mono ?_ ?_
      · rintro _ after ⟨_, moved⟩
        have stages := (Tree.Staged.of_put "" free).put content
        obtain ⟨_, located, held, filled⟩ := stages.filledAt rfl moved
        exact (filled.wrote located held).of_grows grows
      · rintro _ _ ⟨same, _⟩
        exact same.trans grows.content?
    · rintro _ _ rfl
      exact grows.content?
  · exact fun _ _ => Tree.Grows.content?

/-- A file that can be opened is written, which takes two calls. -/
theorem opened_ends :
    Ends
      (do
        call (·.writeFile path "")
        let encoded ← accept (encodable (Text.ofString content))
        call (·.writeFile path encoded) : Commit Unit)
      tree
      (fun _ after => ∃ location, tree.locate path = .ok location ∧
        tree.node? location ≠ some .directory ∧ tree.FilledAt location content after)
      (fun _ after => after = tree ∧ ∃ error, tree.writeFile path "" = .error error) := by
  refine Ends.bind (Ends.call (fun emptied written => ?_)
    fun error refused => ⟨rfl, error, refused⟩)
  obtain ⟨location, located, held, rfl⟩ := Tree.writeFile_eq_ok_iff.mp written
  -- The file can be opened again, since it was opened just now.
  obtain ⟨_, again, filled⟩ := Tree.exists_writeFile_again content located held
  refine Ends.bind (encodable_ends (Ends.call ?_ ?_))
  · intro after ended
    cases again.symm.trans ended
    exact ⟨location, located, held, filled⟩
  · intro error ended
    cases again.symm.trans ended

/-- Code is written directly, or all files are left as they are. -/
theorem writeDirectly_ends (judged : Bool) :
    Ends (writeDirectly validator path (Text.ofString content) judged) tree
      (fun _ after => tree.Wrote path content after)
      (fun _ after => after.content? = tree.content?) := by
  rw [writeDirectly_eq]
  refine Ends.bind ((judge_ends validator _ judged tree).mono ?_ ?_)
  · rintro _ _ ⟨rfl, _⟩
    refine Ends.bind ((onlyGrows_ensureDirectory path.parent _).mono ?_ ?_)
    · rintro _ grown grows
      refine (opened_ends path content grown).mono ?_ ?_
      · rintro _ _ ⟨_, located, held, filled⟩
        exact (filled.wrote located held).of_grows grows
      · rintro _ _ ⟨rfl, _⟩
        exact grows.content?
    · exact fun _ _ => Tree.Grows.content?
  · rintro _ _ ⟨rfl, _⟩
    rfl

theorem writeOutput_options (code : Text) (options : OutputOptions) :
    writeOutput validator path code (.options options) = (do
      let present ← ask (·.isPresent path)
      if present ∧ options.mode = .errorIfExists then throw (.outputExists path)
      else if options.atomicWrite.truthy then
        replaceFile validator path code options.validateBeforeWrite.truthy
      else writeDirectly validator path code options.validateBeforeWrite.truthy) := rfl

/-- Whatever the options of the output, code is written or all files are left as they
are. -/
theorem writeOutput_ends (output : Section OutputOptions) :
    Ends (writeOutput validator path (Text.ofString content) output) tree
      (fun _ after => tree.Wrote path content after)
      (fun _ after => after.content? = tree.content?) := by
  cases output with
  | absent => exact Ends.throw rfl
  | other value => exact Ends.bind (Ends.ask (fun _ _ => Ends.throw rfl) fun _ _ => rfl)
  | options options =>
      rw [writeOutput_options]
      refine Ends.bind (Ends.ask (fun present _ => ?_) fun _ _ => rfl)
      split
      · exact Ends.throw rfl
      · split
        · exact replaceFile_ends validator path content tree _
        · exact writeDirectly_ends validator path content tree _

variable {path tree}

/-- An output that exists is not touched unless there are options with a mode for that. -/
theorem writeOutput_ends_of_present (present : tree.isPresent path = .ok true) (code : Text)
    {output : Section OutputOptions}
    (guarded : ∀ options, output = .options options → options.mode = .errorIfExists) :
    Ends (writeOutput validator path code output) tree (fun _ _ => False)
      (fun _ after => after = tree) := by
  cases output with
  | absent => exact Ends.throw rfl
  | other value => exact Ends.bind (Ends.ask (fun _ _ => Ends.throw rfl) fun _ _ => rfl)
  | options options =>
      rw [writeOutput_options]
      refine Ends.bind (Ends.ask (fun answer asked => ?_) fun _ _ => rfl)
      rw [present] at asked
      cases asked
      rw [if_pos ⟨rfl, guarded options rfl⟩]
      exact Ends.throw rfl

/-- All modes in which an output that exists is overwritten are one. -/
theorem writeOutput_eq_force (path : Path) (code : Text) {options : OutputOptions}
    (overwrites : options.mode ≠ .errorIfExists) :
    writeOutput validator path code (.options options) =
      writeOutput validator path code (.options { options with mode := .force }) := by
  rw [writeOutput_options, writeOutput_options]
  simp [overwrites]

end

end ProtocolBindings.Files.Commit
