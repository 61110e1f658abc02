import ProtocolBindings.Proofs.Files.Agreement
import ProtocolBindings.Proofs.Files.Path

/-!
# Directories with the same files

One may stand in two places that hold the same files.  A path that stays inside then leads to
the same files from both, and the path from the root to a file leads somewhere in one tree if it
does in the other.
-/

namespace ProtocolBindings.Files.Tree

variable {tree here there : Tree} {path : Path} {node : Node} {names own : List String}

/-- One stands in a directory, to which names lead down from the root. -/
structure Stands (tree : Tree) : Prop where
  grounded : tree.Grounded
  proper : ∀ name ∈ tree.current, IsName name

/-- Below the directories in which one stands, two trees hold the same. -/
def SameFiles (here there : Tree) : Prop :=
  ∀ location, here.node? (here.current ++ location) = there.node? (there.current ++ location)

theorem SameFiles.symm (same : SameFiles here there) : SameFiles there here :=
  fun location => (same location).symm

theorem isPresent_of_look (found : tree.look path = .ok node) :
    tree.isPresent path = .ok true := by
  rw [isPresent, found]

theorem look_of_isPresent (present : tree.isPresent path = .ok true) :
    ∃ node, tree.look path = .ok node := by
  rw [isPresent] at present
  split at present
  · rename_i found
    exact ⟨_, found⟩
  · cases present
  · cases present

/-! ## Paths that stay inside -/

/-- A path that stays inside leads to the same names below both directories. -/
theorem SameFiles.walk (same : SameFiles here there) (inside : path.staysInside = true)
    (walked : here.walk path = .ok (here.current ++ path.ownNames)) :
    there.walk path = .ok (there.current ++ path.ownNames) := by
  induction path with
  | root => cases inside
  | here =>
      rw [Path.ownNames, List.append_nil]
      rfl
  | child directory name ih =>
      have above : directory.staysInside = true := by
        rw [Path.staysInside, Bool.and_eq_true] at inside
        exact inside.1
      obtain ⟨middle, first, entered⟩ := walk_child_eq_ok_iff.mp walked
      obtain rfl : middle = here.current ++ directory.ownNames := by
        rw [eq_resolveFrom_of_walk first, Path.resolveFrom_of_staysInside above]
      obtain ⟨held, last⟩ := step_eq_ok_iff.mp entered
      refine walk_child_eq_ok_iff.mpr
        ⟨_, ih above first, step_eq_ok_iff.mpr ⟨(same _).symm.trans held, ?_⟩⟩
      rw [← Path.resolveFrom_of_staysInside inside, Path.resolveFrom,
        Path.resolveFrom_of_staysInside above]
      rcases last with ⟨up, _⟩ | ⟨down, short, _⟩
      · exact .inl ⟨up, if_pos up⟩
      · exact .inr ⟨down, short, if_neg down⟩

theorem SameFiles.look (same : SameFiles here there) (inside : path.staysInside = true)
    (found : here.look path = .ok node) : there.look path = .ok node := by
  obtain ⟨location, located, held⟩ := look_eq_ok_iff.mp found
  obtain ⟨unmentioned, short, walked⟩ := locate_eq_ok_iff.mp located
  obtain rfl : location = here.current ++ path.ownNames := by
    rw [eq_resolveFrom_of_walk walked, Path.resolveFrom_of_staysInside inside]
  exact look_eq_ok_iff.mpr ⟨_, locate_eq_ok_iff.mpr ⟨unmentioned, short, same.walk inside walked⟩,
    (same _).symm.trans held⟩

theorem SameFiles.present (same : SameFiles here there) (inside : path.staysInside = true)
    (present : here.isPresent path = .ok true) : there.isPresent path = .ok true := by
  obtain ⟨node, found⟩ := look_of_isPresent present
  exact isPresent_of_look (same.look inside found)

/-! ## Paths from the root -/

/-- Where there are directories above, a path from the root leads to its names, unless one of
them is too long. -/
theorem walk_ofNames (proper : ∀ name ∈ names, IsName name)
    (directories : ∀ above, above <+: names → above ≠ names → tree.node? above = some .directory) :
    tree.walk (.ofNames names) = .ok names ∨
      tree.walk (.ofNames names) = .error .nameTooLong := by
  induction names using List.reverseRecOn with
  | nil => exact .inl rfl
  | append_singleton front last ih =>
      obtain ⟨others, own⟩ := List.forall_mem_append.mp proper
      have shorter : ∀ above, above <+: front → above ≠ front ++ [last] := by
        rintro _ prior rfl
        exact absurd prior.length_le (by simp)
      have first := ih others fun above prior _ =>
        directories above (prior.trans (List.prefix_append front [last])) (shorter above prior)
      rw [Path.ofNames_concat, walk]
      rcases first with walked | long
      · have held := directories front (List.prefix_append front [last])
          (shorter front List.prefix_rfl)
        rw [walked]
        show tree.step front last = _ ∨ tree.step front last = _
        rw [step, held]
        dsimp only
        rw [if_neg (List.forall_mem_singleton.mp own).down]
        split
        · exact .inr rfl
        · exact .inl rfl
      · rw [long]
        exact .inr rfl

theorem locate_ofNames (proper : ∀ name ∈ names, IsName name)
    (directories : ∀ above, above <+: names → above ≠ names → tree.node? above = some .directory) :
    tree.locate (.ofNames names) = .ok names ∨
      tree.locate (.ofNames names) = .error .nameTooLong := by
  rw [locate, if_neg (Bool.eq_false_iff.mp (Path.mentions_ofNames proper))]
  split
  · exact .inr rfl
  · exact walk_ofNames proper directories

/-- What is at a path from the root is what its names hold. -/
theorem node?_of_look_ofNames (proper : ∀ name ∈ names, IsName name)
    (found : tree.look (.ofNames names) = .ok node) :
    tree.walk (.ofNames names) = .ok names ∧ tree.node? names = some node := by
  obtain ⟨location, located, held⟩ := look_eq_ok_iff.mp found
  obtain ⟨_, _, walked⟩ := locate_eq_ok_iff.mp located
  obtain rfl : location = names := by
    rw [eq_resolveFrom_of_walk walked, Path.resolveFrom_ofNames proper]
  exact ⟨walked, held⟩

/-- What is there below the one directory is there below the other, if that is answered. -/
theorem SameFiles.present_ofNames (same : SameFiles here there) (stands : here.Stands)
    (also : there.Stands) (proper : ∀ name ∈ own, IsName name) {answer : Bool}
    (present : here.isPresent (.ofNames (here.current ++ own)) = .ok true)
    (answered : there.isPresent (.ofNames (there.current ++ own)) = .ok answer) :
    answer = true := by
  obtain ⟨node, found⟩ := look_of_isPresent present
  obtain ⟨walked, held⟩ :=
    node?_of_look_ofNames (List.forall_mem_append.mpr ⟨stands.proper, proper⟩) found
  -- Around the place where one stands there are directories anyway; below it they are those
  -- through which the path leads in the other tree.
  have directories : ∀ above, above <+: there.current ++ own → above ≠ there.current ++ own →
      there.node? above = some .directory := by
    intro above prior differs
    rcases List.prefix_or_prefix_of_prefix prior (List.prefix_append there.current own)
      with outside | ⟨rest, rfl⟩
    · exact also.grounded above outside
    · have inside := (List.prefix_append_right_inj there.current).mp prior
      rw [← same rest]
      refine directory_above_of_walk stands.grounded walked
        ((List.prefix_append_right_inj here.current).mpr inside) fun equal => differs ?_
      rw [List.append_cancel_left equal]
  rcases locate_ofNames (List.forall_mem_append.mpr ⟨also.proper, proper⟩) directories
    with located | long
  · have there := isPresent_of_look (look_eq_ok_iff.mpr ⟨_, located, (same own).symm.trans held⟩)
    exact Except.ok.inj (answered.symm.trans there)
  · rw [isPresent, Tree.look, long] at answered
    cases answered

end ProtocolBindings.Files.Tree
