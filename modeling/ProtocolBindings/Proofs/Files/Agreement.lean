import Mathlib.Data.List.Nodup
import Mathlib.Data.List.Perm.Subperm
import ProtocolBindings.Proofs.Files.Commit

/-!
# Replacing a file and writing it directly

A file is replaced by way of a staged file, which is named after it and opened from the
root.  Both ways of writing come down to the same place: the location to which the path
leads once the directories above it are made.  Where a staged file has room, a file is
replaced exactly when it is written directly.
-/

namespace ProtocolBindings.Files

/-! ## Where a path leads -/

namespace Tree

variable {tree grown : Tree} {path : Path} {location : Location}

/-- One stands in a directory, and so is every directory above it. -/
def Grounded (tree : Tree) : Prop :=
  ∀ above, above <+: tree.current → tree.node? above = some .directory

theorem Grounded.of_keepsDirectories (grounded : tree.Grounded)
    (keeps : KeepsDirectories tree grown) : grown.Grounded := by
  intro above prior
  rw [keeps.current] at prior
  exact keeps.directories above (grounded above prior)

theorem locate_eq_ok_iff :
    tree.locate path = .ok location ↔
      path.mentions '\x00' = false ∧ path.text.utf8ByteSize < pathLimit ∧
      tree.walk path = .ok location := by
  unfold locate
  split
  · rename_i mentioned
    simp [mentioned]
  · rename_i unmentioned
    split
    · rename_i long
      simp [Nat.not_lt.mpr long]
    · rename_i short
      simp [unmentioned, Nat.lt_of_not_le short]

theorem walk_child_eq_ok_iff {directory : Path} {name : String} :
    tree.walk (.child directory name) = .ok location ↔
      ∃ middle, tree.walk directory = .ok middle ∧ tree.step middle name = .ok location := by
  rw [walk, bind_eq_ok_iff]

/-- A name is entered, or left by two dots. -/
theorem step_eq_ok_iff {middle : Location} {name : String} :
    tree.step middle name = .ok location ↔
      tree.node? middle = some .directory ∧
      (name = ".." ∧ location = middle.dropLast ∨
        name ≠ ".." ∧ name.utf8ByteSize ≤ nameLimit ∧ location = middle ++ [name]) := by
  unfold step
  split
  · rename_i gone
    simp [gone]
  · rename_i file
    simp [file]
  · rename_i directory
    by_cases up : name = ".."
    · simp [directory, up, eq_comm]
    · by_cases long : nameLimit < name.utf8ByteSize
      · simp [directory, up, long, Nat.not_le.mpr long]
      · simp [directory, up, long, eq_comm, Nat.le_of_not_lt long]

/-- If a path leads anywhere, its names alone say where. -/
theorem eq_resolveFrom_of_walk (walked : tree.walk path = .ok location) :
    location = path.resolveFrom tree.current := by
  induction path generalizing location with
  | root | here => exact (Except.ok.inj walked).symm
  | child directory name ih =>
      obtain ⟨middle, first, entered⟩ := walk_child_eq_ok_iff.mp walked
      obtain ⟨_, ⟨up, rfl⟩ | ⟨down, _, rfl⟩⟩ := step_eq_ok_iff.mp entered
      · rw [Path.resolveFrom, if_pos up, ih first]
      · rw [Path.resolveFrom, if_neg down, ih first]

/-- Above a location to which a path leads there are directories only. -/
theorem directory_above_of_walk (grounded : tree.Grounded)
    (walked : tree.walk path = .ok location) {above : Location} (prior : above <+: location)
    (proper : above ≠ location) : tree.node? above = some .directory := by
  induction path generalizing location with
  | root =>
      cases walked
      exact absurd (List.prefix_nil.mp prior) proper
  | here =>
      cases walked
      exact grounded above prior
  | child directory name ih =>
      obtain ⟨middle, first, entered⟩ := walk_child_eq_ok_iff.mp walked
      obtain ⟨held, ⟨_, rfl⟩ | ⟨_, _, rfl⟩⟩ := step_eq_ok_iff.mp entered
      all_goals
        by_cases last : above = middle
        · rwa [last]
      · exact ih first (prior.trans middle.dropLast_prefix) last
      · refine ih first ?_ last
        exact (List.prefix_concat_iff.mp prior).resolve_left proper

/-- What is no directory is found under a proper name only. -/
theorem exists_child_of_locate (grounded : tree.Grounded)
    (located : tree.locate path = .ok location) (held : tree.node? location ≠ some .directory) :
    ∃ directory name, path = .child directory name ∧ name ≠ ".." := by
  obtain ⟨_, _, walked⟩ := locate_eq_ok_iff.mp located
  cases path with
  | root =>
      cases walked
      exact absurd tree.node?_nil held
  | here =>
      cases walked
      exact absurd (grounded tree.current List.prefix_rfl) held
  | child directory name =>
      refine ⟨directory, name, rfl, fun up => held ?_⟩
      obtain ⟨middle, first, entered⟩ := walk_child_eq_ok_iff.mp walked
      obtain ⟨found, ⟨_, rfl⟩ | ⟨down, _⟩⟩ := step_eq_ok_iff.mp entered
      · by_cases last : middle.dropLast = middle
        · rwa [last]
        · exact directory_above_of_walk grounded first middle.dropLast_prefix last
      · exact absurd up down

end Tree

namespace Commit

variable {tree grown : Tree} {path : Path} {location : Location}

/-! ## Staged names -/

/-- The digits of a mark are those of its number, after zeros. -/
theorem ofDigitChars_stagedMark (number : Nat) :
    Nat.ofDigitChars 10 (stagedMark number).toList 0 = number := by
  unfold stagedMark
  rw [String.toList_append, String.toList_ofList, Nat.ofDigitChars_append,
    Nat.ofDigitChars_replicate_zero, Nat.mul_zero, Nat.repr_eq_ofList_toDigits,
    String.toList_ofList, Nat.ofDigitChars_ten_toDigits]

theorem stagedName_injective (name : String) : Function.Injective (stagedName name) := by
  intro first second same
  have marks : stagedMark first = stagedMark second := by
    simpa only [stagedName, String.append_left_inj, String.append_right_inj] using same
  rw [← ofDigitChars_stagedMark first, marks, ofDigitChars_stagedMark]

/-- A staged file finds a free name, since there are more numbers than nodes. -/
theorem exists_stagedLocation (tree : Tree) (directory : Location) (name : String) :
    ∃ staged, stagedLocation tree directory name = some staged := by
  by_contra missing
  have none : stagedLocation tree directory name = none :=
    Option.eq_none_iff_forall_ne_some.mpr (not_exists.mp missing)
  have candidates : ((List.range (tree.nodes.length + 1)).map fun number =>
      directory ++ [stagedName name number]).Nodup := by
    refine List.nodup_range.map fun first second same => ?_
    exact stagedName_injective name (List.singleton_inj.mp (List.append_cancel_left same))
  have taken : ((List.range (tree.nodes.length + 1)).map fun number =>
      directory ++ [stagedName name number]) ⊆ tree.nodes.map Prod.fst := by
    intro candidate member
    have held := List.find?_eq_none.mp none candidate member
    obtain ⟨number, _, rfl⟩ := List.mem_map.mp member
    simp only [Tree.node?, List.append_eq_nil_iff, List.cons_ne_nil, and_false, if_false,
      Option.isNone_iff_eq_none, List.lookup_eq_none_iff, not_forall] at held
    obtain ⟨entry, present, same⟩ := held
    exact List.mem_map.mpr ⟨entry, present, by simpa using Eq.symm (by simpa using same)⟩
  have short := candidates.length_le_of_subset taken
  simp only [List.length_map, List.length_range] at short
  omega

/-! ## Room for a staged file -/

/-- The system takes the name and the path of the file that is staged for a path. -/
structure HasRoom (tree : Tree) (path : Path) : Prop where
  name : path.name.utf8ByteSize + stagedExcess ≤ Tree.nameLimit
  path : stagedSize (path.parent.resolveFrom tree.current) path.name < Tree.pathLimit

theorem HasRoom.of_current (room : HasRoom tree path) (current : grown.current = tree.current) :
    HasRoom grown path := by
  refine ⟨room.name, ?_⟩
  rw [current]
  exact room.path

theorem contains_name_of_mentions (unmentioned : path.mentions '\x00' = false) :
    path.name.toList.contains '\x00' = false := by
  cases path with
  | root | here => rfl
  | child directory name => exact (Bool.or_eq_false_iff.mp unmentioned).2

/-- With room for it, a file is staged if the path leads anywhere. -/
theorem stage_ends_of_room (room : HasRoom tree path)
    (found : tree.look path.parent = .ok .directory) :
    Ends (stage path.parent path.name) tree (fun _ _ => True)
      (fun _ _ => ∀ location, tree.locate path ≠ .ok location) := by
  apply Ends.get_bind
  split
  · rename_i invalid
    refine Ends.throw fun location located => ?_
    obtain ⟨unmentioned, _⟩ := Tree.locate_eq_ok_iff.mp located
    rw [contains_name_of_mentions unmentioned] at invalid
    cases invalid
  · split
    · exact absurd room.name (Nat.not_le.mpr ‹_›)
    · obtain ⟨directory, located, _⟩ := Tree.look_eq_ok_iff.mp found
      refine Ends.bind (Ends.ask (fun answer answered => ?_) fun error refused => ?_)
      · obtain ⟨_, _, walked⟩ := Tree.locate_eq_ok_iff.mp answered
        cases Tree.eq_resolveFrom_of_walk walked
        rw [if_neg (Nat.not_le.mpr room.path)]
        obtain ⟨staged, free⟩ := exists_stagedLocation tree (path.parent.resolveFrom tree.current)
          path.name
        rw [free]
        exact Ends.bind (Ends.set (Ends.pure trivial))
      · rw [located] at refused
        cases refused

/-! ## Places -/

/-- The place for a file at a path: the location to which the path leads once the directories
above it are made, unless there is a directory. -/
structure Place (tree : Tree) (path : Path) (grown : Tree) (location : Location) : Prop where
  made : (ensureDirectory path.parent).run tree = (.ok (), grown)
  located : grown.locate path = .ok location
  held : grown.node? location ≠ some .directory

theorem Place.of_made {other : Tree} (place : Place tree path other location)
    (made : (ensureDirectory path.parent).run tree = (.ok (), grown)) :
    Place tree path grown location := by
  cases made.symm.trans place.made
  exact place

theorem Place.unique {other : Tree} {elsewhere : Location} (place : Place tree path grown location)
    (also : Place tree path other elsewhere) : location = elsewhere :=
  Except.ok.inj (place.located.symm.trans (also.of_made place.made).located)

/-- A commit puts the content in its place, unless it is not accepted or there is no place for
it. -/
def Settles (commit : Commit Unit) (tree : Tree) (path : Path) (content : String)
    (accepted : Prop) : Prop :=
  Ends commit tree
    (fun _ after => accepted ∧ ∃ grown location, Place tree path grown location ∧
      after.content? = Function.update tree.content? location (some content))
    (fun _ after => after.content? = tree.content? ∧
      (accepted → ∀ grown location, ¬ Place tree path grown location))

/-- Commits agree if both succeed or both fail, and leave the same files. -/
structure AgreeIn (tree : Tree) (first second : Commit Unit) : Prop where
  succeed : (first.run tree).1 = .ok () ↔ (second.run tree).1 = .ok ()
  files : (first.run tree).2.content? = (second.run tree).2.content?

theorem AgreeIn.refl (tree : Tree) (commit : Commit Unit) : AgreeIn tree commit commit :=
  ⟨Iff.rfl, rfl⟩

theorem Settles.cases {commit : Commit Unit} {content : String} {accepted : Prop}
    (settles : Settles commit tree path content accepted) :
    (∃ after grown location, commit.run tree = (.ok (), after) ∧ accepted ∧
      Place tree path grown location ∧
      after.content? = Function.update tree.content? location (some content)) ∨
    (∃ cause after, commit.run tree = (.error cause, after) ∧
      after.content? = tree.content? ∧
      (accepted → ∀ grown location, ¬ Place tree path grown location)) := by
  unfold Settles Ends at settles
  split at settles
  · obtain ⟨passed, grown, location, place, filled⟩ := settles
    exact .inl ⟨_, grown, location, ‹_›, passed, place, filled⟩
  · obtain ⟨same, blocked⟩ := settles
    exact .inr ⟨_, _, ‹_›, same, blocked⟩

/-- What settles the same content at the same path agrees. -/
theorem Settles.agree {first second : Commit Unit} {content : String} {accepted : Prop}
    (settles : Settles first tree path content accepted)
    (also : Settles second tree path content accepted) : AgreeIn tree first second := by
  obtain ⟨after, grown, location, ran, passed, place, filled⟩ |
    ⟨cause, after, ran, same, blocked⟩ := settles.cases
  all_goals
    obtain ⟨after', grown', location', ran', passed', place', filled'⟩ |
      ⟨cause', after', ran', same', blocked'⟩ := also.cases
  · rw [place.unique place', ← filled'] at filled
    exact ⟨by simp only [ran, ran'], by simp only [ran, ran', filled]⟩
  · exact absurd place (blocked' passed grown location)
  · exact absurd place' (blocked passed' grown' location')
  · exact ⟨by simp only [ran, ran', reduceCtorEq], by simp only [ran, ran', same, same']⟩

/-! ## Writing -/

section

variable (validator : Validator) (content : String)

theorem writeDirectly_settles (judged : Bool) :
    Settles (writeDirectly validator path (Text.ofString content) judged) tree path content
      (Accepted validator (Text.ofString content) judged) := by
  unfold Settles
  rw [writeDirectly_eq]
  refine Ends.bind ((judge_ends validator _ judged tree).mono ?_ ?_)
  · rintro _ _ ⟨rfl, accepted⟩
    refine Ends.bind (((onlyGrows_ensureDirectory path.parent _).and (Ends.self _ _)).mono ?_ ?_)
    · rintro _ grown ⟨grows, made⟩
      refine (opened_ends path content grown).mono ?_ ?_
      · rintro _ after ⟨location, located, held, filled⟩
        exact ⟨accepted, grown, location, ⟨made, located, held⟩, grows.content? ▸ filled.content?⟩
      · rintro _ _ ⟨rfl, error, refused⟩
        refine ⟨grows.content?, fun _ _ location place => ?_⟩
        obtain ⟨_, located, held⟩ := place.of_made made
        rw [Tree.writeFile_eq_ok_iff.mpr ⟨location, located, held, rfl⟩] at refused
        cases refused
    · rintro cause grown ⟨grows, failed⟩
      refine ⟨grows.content?, fun _ _ _ place => ?_⟩
      cases failed.symm.trans place.made
  · rintro _ _ ⟨rfl, rejected⟩
    exact ⟨rfl, fun accepted => absurd accepted rejected⟩

theorem replaceFile_settles (grounded : tree.Grounded) (room : HasRoom tree path) (judged : Bool) :
    Settles (replaceFile validator path (Text.ofString content) judged) tree path content
      (Accepted validator (Text.ofString content) judged) := by
  unfold Settles
  rw [replaceFile_eq]
  have making := ((onlyGrows_ensureDirectory path.parent tree).and (Ends.self _ _)).and
    (ensureDirectory_found path.parent tree)
  refine Ends.bind (making.mono ?_ ?_)
  · rintro _ grown ⟨⟨grows, made⟩, found⟩
    have staging := (stage_ends path.parent path.name grown).and
      (stage_ends_of_room (room.of_current grows.current) found)
    refine Ends.bind (staging.mono ?_ ?_)
    · rintro staged _ ⟨⟨free, rfl⟩, _⟩
      have stages := (Tree.Staged.of_put "" free).put content
      refine (staged_ends validator path content grown judged free).mono ?_ ?_
      · rintro _ after ⟨accepted, moved⟩
        obtain ⟨location, located, held, filled⟩ := stages.filledAt rfl moved
        exact ⟨accepted, grown, location, ⟨made, located, held⟩, grows.content? ▸ filled.content?⟩
      · rintro _ after ⟨same, refused⟩
        refine ⟨same.trans grows.content?, fun accepted _ location place => ?_⟩
        obtain ⟨error, refused⟩ := refused accepted
        obtain ⟨_, located, held⟩ := place.of_made made
        -- Nothing but a directory is in the way of the staged file.
        obtain ⟨directory, name, rfl, proper⟩ := Tree.exists_child_of_locate
          (grounded.of_keepsDirectories grows.keepsDirectories) located held
        obtain ⟨_, moved⟩ := Tree.exists_moveFile proper ((stages.locate_iff rfl).mpr located)
          stages.node?_self (mt stages.directory_iff.mp held)
        rw [refused] at moved
        cases moved
    · rintro _ _ ⟨rfl, nowhere⟩
      refine ⟨grows.content?, fun _ _ location place => ?_⟩
      exact nowhere location (place.of_made made).located
  · rintro cause grown ⟨⟨grows, failed⟩, _⟩
    refine ⟨grows.content?, fun _ _ _ place => ?_⟩
    cases failed.symm.trans place.made

end

theorem AgreeIn.ask_bind {α : Type} {question : Tree → Except SystemError α}
    {first second : α → Commit Unit}
    (agree : ∀ answer, AgreeIn tree (first answer) (second answer)) :
    AgreeIn tree (ask question >>= first) (ask question >>= second) := by
  have asked : Ends (ask question) tree (fun _ after => after = tree)
      (fun _ after => after = tree) :=
    Ends.ask (fun _ _ => rfl) fun _ _ => rfl
  constructor <;> rw [run_bind, run_bind]
  all_goals cases ran : (ask question).run tree with
  | mk ending after =>
      cases ending with
      | ok answer =>
          cases asked.of_ok ran
          first | exact (agree answer).succeed | exact (agree answer).files
      | error cause => rfl

/-- Where a staged file has room, it makes no difference whether a file is replaced or written
directly: neither to the success nor to the files. -/
theorem atomicWrite_agrees (validator : Validator) (grounded : tree.Grounded)
    (room : HasRoom tree path) (content : String) (options : OutputOptions) :
    AgreeIn tree
      (writeOutput validator path (Text.ofString content)
        (.options { options with atomicWrite := .bool true }))
      (writeOutput validator path (Text.ofString content)
        (.options { options with atomicWrite := .bool false })) := by
  rw [writeOutput_options, writeOutput_options]
  refine AgreeIn.ask_bind fun present => ?_
  split
  · exact .refl tree _
  · exact (replaceFile_settles validator content grounded room _).agree
      (writeDirectly_settles validator content _)

/-- A tree with one file, in the directory in which one stands. -/
def workTree : Tree := ⟨["work"], [(["work"], .directory), (["work", "old"], .file "a")]⟩

theorem grounded_workTree : workTree.Grounded := by
  intro above prior
  obtain rfl | rfl : above = [] ∨ above = ["work"] := by
    simpa [workTree, List.prefix_cons_iff] using prior
  · rfl
  · rfl

/-- An old file is replaced as it is written directly. -/
theorem agrees_in_workTree :
    workTree.Grounded ∧ HasRoom workTree (.child .here "old") ∧
    AgreeIn workTree
      (writeOutput (fun _ => .ok ()) (.child .here "old") (Text.ofString "b")
        (.options { mode := .force, atomicWrite := .bool true }))
      (writeOutput (fun _ => .ok ()) (.child .here "old") (Text.ofString "b")
        (.options { mode := .force, atomicWrite := .bool false })) := by
  have room : HasRoom workTree (.child .here "old") := ⟨by decide +kernel, by decide +kernel⟩
  exact ⟨grounded_workTree, room,
    atomicWrite_agrees (fun _ => .ok ()) grounded_workTree room "b" { mode := .force }⟩

/-- A path that leads through twenty directories with long names. -/
def deepPath : Path :=
  .child ((List.replicate 20 (String.ofList (List.replicate 200 'd'))).foldl .child .here)
    (String.ofList (List.replicate 56 'n'))

/-- A file can have a short name and no room for a staged file, because the path from the root
is too long.  It is written directly, and not replaced. -/
theorem not_agree_at_deepPath :
    workTree.Grounded ∧ deepPath.name.utf8ByteSize + stagedExcess ≤ Tree.nameLimit ∧
    ¬ AgreeIn workTree
      (writeOutput (fun _ => .ok ()) deepPath (Text.ofString "b")
        (.options { atomicWrite := .bool true }))
      (writeOutput (fun _ => .ok ()) deepPath (Text.ofString "b")
        (.options { atomicWrite := .bool false })) := by
  refine ⟨grounded_workTree, by decide +kernel, fun agree => ?_⟩
  have written : ((writeOutput (fun _ => .ok ()) deepPath (Text.ofString "b")
      (.options { atomicWrite := .bool false })).run workTree).1 = .ok () :=
    toOption_eq_some_iff.mp (by decide +kernel)
  have replaced := toOption_eq_some_iff.mpr (agree.succeed.mpr written)
  have refused : ((writeOutput (fun _ => .ok ()) deepPath (Text.ofString "b")
      (.options { atomicWrite := .bool true })).run workTree).1.toOption = none := by
    decide +kernel
  rw [refused] at replaced
  cases replaced

end Commit

end ProtocolBindings.Files
