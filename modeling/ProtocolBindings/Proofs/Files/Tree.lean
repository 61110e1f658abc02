import Mathlib.Logic.Function.Basic
import ProtocolBindings.Files.Tree
import ProtocolBindings.Proofs.Failure

/-!
# Calls on the tree

What a tree holds is a function of the location, and a call that succeeds updates it.  As
long as directories stay, a path goes on leading where it led.
-/

namespace ProtocolBindings.Files

/-- The content of a file. -/
def Node.content? : Node → Option String
  | .directory => none
  | .file content => some content

namespace Tree

variable {tree before middle after : Tree} {path : Path} {location : Location}
variable {content : String}

/-! ## What a tree holds -/

theorem node?_nil (tree : Tree) : tree.node? [] = some .directory := rfl

/-- What is no directory is below the root. -/
theorem ne_nil_of_node? (held : tree.node? location ≠ some .directory) : location ≠ [] := by
  rintro rfl
  exact held tree.node?_nil

theorem ne_nil_of_free (free : tree.node? location = none) : location ≠ [] := by
  rintro rfl
  rw [node?_nil] at free
  cases free

theorem node?_put (node : Node) (below : location ≠ []) :
    (tree.put location node).node? = Function.update tree.node? location (some node) := by
  funext other
  by_cases same : other = location
  · rw [same, node?_put_self tree node below, Function.update_self]
  · rw [node?_put_of_ne tree node same, Function.update_of_ne same]

theorem node?_erase (below : location ≠ []) :
    (tree.erase location).node? = Function.update tree.node? location none := by
  funext other
  by_cases same : other = location
  · rw [same, node?_erase_self tree below, Function.update_self]
  · rw [node?_erase_of_ne tree same, Function.update_of_ne same]

theorem content?_eq_bind (tree : Tree) (location : Location) :
    tree.content? location = (tree.node? location).bind Node.content? := by
  unfold content?
  split
  · rename_i held
    rw [held]
    rfl
  · rename_i unlike
    cases held : tree.node? location with
    | none => rfl
    | some node =>
        cases node with
        | directory => rfl
        | file content => exact absurd held (unlike content)

theorem content?_of_node? (same : after.node? = before.node?) :
    after.content? = before.content? := by
  funext location
  rw [content?_eq_bind, content?_eq_bind, same]

/-- A file at a location changes the content there only. -/
theorem content?_of_node?_update
    (filled : after.node? = Function.update before.node? location (some (.file content))) :
    after.content? = Function.update before.content? location (some content) := by
  funext other
  rw [content?_eq_bind, filled]
  by_cases same : other = location
  · rw [same, Function.update_self, Function.update_self]
    rfl
  · rw [Function.update_of_ne same, Function.update_of_ne same, content?_eq_bind]

/-! ## Where paths lead -/

/-- The directories of one tree are directories of another, with the same current one. -/
structure KeepsDirectories (before after : Tree) : Prop where
  current : after.current = before.current
  directories : ∀ location, before.node? location = some .directory →
    after.node? location = some .directory

theorem KeepsDirectories.of_elsewhere (held : before.node? location ≠ some .directory)
    (current : after.current = before.current)
    (elsewhere : ∀ other, other ≠ location → after.node? other = before.node? other) :
    KeepsDirectories before after where
  current := current
  directories other directory := by
    have different : other ≠ location := by
      rintro rfl
      exact held directory
    rw [elsewhere other different, directory]

theorem KeepsDirectories.put (node : Node) (held : tree.node? location ≠ some .directory) :
    KeepsDirectories tree (tree.put location node) :=
  .of_elsewhere held rfl fun _ => node?_put_of_ne tree node

/-- A name is entered from a directory. -/
theorem step_eq_of_directory (name : String)
    (directory : before.node? location = some .directory)
    (still : after.node? location = some .directory) :
    after.step location name = before.step location name := by
  rw [step, step, directory, still]

theorem directory_of_step {name : String} {target : Location}
    (entered : tree.step location name = .ok target) :
    tree.node? location = some .directory := by
  unfold step at entered
  split at entered
  · cases entered
  · cases entered
  · assumption

theorem walk_of_keepsDirectories (keeps : KeepsDirectories before after)
    (walked : before.walk path = .ok location) : after.walk path = .ok location := by
  induction path generalizing location with
  | root => exact walked
  | here => rwa [walk, keeps.current]
  | child directory name ih =>
      rw [walk] at walked ⊢
      cases first : before.walk directory with
      | error error => rw [first] at walked; cases walked
      | ok middle =>
          rw [first] at walked
          have entered : before.step middle name = .ok location := walked
          have held := directory_of_step entered
          have still := keeps.directories middle held
          rw [ih first]
          exact (step_eq_of_directory name held still).trans entered

/-- As long as directories stay, a path leads to the same location. -/
theorem locate_of_keepsDirectories (keeps : KeepsDirectories before after)
    (located : before.locate path = .ok location) : after.locate path = .ok location := by
  unfold locate at located ⊢
  split
  · rw [if_pos ‹_›] at located
    cases located
  · rw [if_neg ‹_›] at located
    split
    · rw [if_pos ‹_›] at located
      cases located
    · rw [if_neg ‹_›] at located
      exact walk_of_keepsDirectories keeps located

theorem node?_of_content? (held : tree.content? location = some content) :
    tree.node? location = some (.file content) := by
  rw [content?_eq_bind, Option.bind_eq_some_iff] at held
  obtain ⟨node, found, own⟩ := held
  cases node with
  | directory => cases own
  | file other => cases own; exact found

/-- What is at a path is what its location holds. -/
theorem look_eq_ok_iff {node : Node} :
    tree.look path = .ok node ↔
      ∃ location, tree.locate path = .ok location ∧ tree.node? location = some node := by
  rw [look, bind_eq_ok_iff]
  refine exists_congr fun location => and_congr_right fun _ => ?_
  cases tree.node? location with
  | none => exact ⟨nofun, nofun⟩
  | some found =>
      constructor
      · exact fun answered => congrArg some (Except.ok.inj answered)
      · exact fun same => congrArg Except.ok (Option.some.inj same)

theorem readFile_eq_ok_iff :
    tree.readFile path = .ok content ↔
      ∃ location, tree.locate path = .ok location ∧ tree.content? location = some content := by
  rw [readFile, bind_eq_ok_iff]
  constructor
  · rintro ⟨node, found, read⟩
    obtain ⟨location, located, held⟩ := look_eq_ok_iff.mp found
    cases node with
    | directory => cases read
    | file own =>
        cases read
        exact ⟨location, located, by rw [content?_eq_bind, held]; rfl⟩
  · rintro ⟨location, located, held⟩
    exact ⟨_, look_eq_ok_iff.mpr ⟨location, located, node?_of_content? held⟩, rfl⟩

theorem isPresent_of_readFile (held : tree.readFile path = .ok content) :
    tree.isPresent path = .ok true := by
  obtain ⟨node, found, _⟩ := bind_eq_ok_iff.mp held
  rw [isPresent, found]

/-! ## Growth -/

/-- A tree with new directories, where there was nothing before. -/
structure Grows (before after : Tree) : Prop where
  current : after.current = before.current
  node : ∀ location, after.node? location = before.node? location ∨
    before.node? location = none ∧ after.node? location = some .directory

theorem Grows.refl (tree : Tree) : Grows tree tree := ⟨rfl, fun _ => .inl rfl⟩

theorem Grows.trans (first : Grows before middle) (second : Grows middle after) :
    Grows before after where
  current := second.current.trans first.current
  node location := by
    rcases first.node location with same | ⟨free, made⟩
    · rw [← same]
      exact second.node location
    · rcases second.node location with same | ⟨gone, _⟩
      · exact .inr ⟨free, same.trans made⟩
      · rw [made] at gone
        cases gone

theorem Grows.keepsDirectories (grows : Grows before after) : KeepsDirectories before after where
  current := grows.current
  directories location directory := by
    rcases grows.node location with same | ⟨free, _⟩
    · rw [same, directory]
    · rw [free] at directory
      cases directory

theorem Grows.content? (grows : Grows before after) : after.content? = before.content? := by
  funext location
  rw [content?_eq_bind, content?_eq_bind]
  rcases grows.node location with same | ⟨free, made⟩
  · rw [same]
  · rw [free, made]
    rfl

/-! ## Calls -/

theorem grows_of_makeDirectory (made : before.makeDirectory path = .ok after) :
    Grows before after := by
  rw [makeDirectory, bind_eq_ok_iff] at made
  obtain ⟨location, _, made⟩ := made
  cases held : before.node? location with
  | some node => rw [held] at made; cases made
  | none =>
      rw [held] at made
      cases made
      refine ⟨rfl, fun other => ?_⟩
      by_cases same : other = location
      · rw [same]
        exact .inr ⟨held, node?_put_self before .directory (ne_nil_of_free held)⟩
      · exact .inl (node?_put_of_ne before .directory same)

/-- A directory that was made is there. -/
theorem look_of_makeDirectory (made : before.makeDirectory path = .ok after) :
    after.look path = .ok .directory := by
  rw [makeDirectory, bind_eq_ok_iff] at made
  obtain ⟨location, located, made⟩ := made
  cases held : before.node? location with
  | some node => rw [held] at made; cases made
  | none =>
      rw [held] at made
      cases made
      have free : before.node? location ≠ some .directory := by
        rw [held]
        exact nofun
      have still := locate_of_keepsDirectories (KeepsDirectories.put .directory free) located
      exact look_eq_ok_iff.mpr ⟨location, still,
        node?_put_self before .directory (ne_nil_of_free held)⟩

/-- A file is written unless the path leads nowhere or to a directory. -/
theorem writeFile_eq_ok_iff :
    before.writeFile path content = .ok after ↔
      ∃ location, before.locate path = .ok location ∧
        before.node? location ≠ some .directory ∧
        after = before.put location (.file content) := by
  rw [writeFile, bind_eq_ok_iff]
  refine exists_congr fun location => and_congr_right fun _ => ?_
  split
  · rename_i directory
    simp [directory]
  · rename_i file
    constructor
    · exact fun written => ⟨file, (Except.ok.inj written).symm⟩
    · rintro ⟨-, rfl⟩
      rfl

/-- A file that is moved leaves its place, and replaces what is no directory. -/
theorem exists_of_moveFile {source : Location}
    (moved : before.moveFile source path = .ok after) :
    ∃ location content, before.locate path = .ok location ∧
      before.node? source = some (.file content) ∧
      before.node? location ≠ some .directory ∧
      after = (before.erase source).put location (.file content) := by
  rw [moveFile, bind_eq_ok_iff] at moved
  obtain ⟨location, located, moved⟩ := moved
  split at moved
  · rename_i directory name content held
    split at moved
    · cases moved
    · split at moved
      · cases moved
      · rename_i free
        exact ⟨location, content, located, held, free, (Except.ok.inj moved).symm⟩
  · cases moved
  · cases moved

/-- A file that is moved to the last name of a path gets there, unless a directory is in its
way. -/
theorem exists_moveFile {source : Location} {directory : Path} {name : String}
    (proper : name ≠ "..") (located : before.locate (.child directory name) = .ok location)
    (file : before.node? source = some (.file content))
    (held : before.node? location ≠ some .directory) :
    ∃ after, before.moveFile source (.child directory name) = .ok after := by
  refine ⟨(before.erase source).put location (.file content), bind_eq_ok_iff.mpr
    ⟨location, located, ?_⟩⟩
  simp only [file, proper, if_false]
  rfl

/-! ## Written files -/

/-- Between two trees a file was put at a location, and nothing else changed. -/
structure FilledAt (location : Location) (content : String) (before after : Tree) : Prop where
  current : after.current = before.current
  node : after.node? = Function.update before.node? location (some (.file content))

theorem filledAt_put (content : String) (below : location ≠ []) :
    FilledAt location content before (before.put location (.file content)) :=
  ⟨rfl, node?_put _ below⟩

theorem FilledAt.trans {other : String} (first : FilledAt location other before middle)
    (second : FilledAt location content middle after) : FilledAt location content before after where
  current := second.current.trans first.current
  node := by rw [second.node, first.node, Function.update_idem]

theorem FilledAt.content? (filled : FilledAt location content before after) :
    after.content? = Function.update before.content? location (some content) :=
  content?_of_node?_update filled.node

/-- Where no directory was replaced, paths go on leading where they led. -/
theorem FilledAt.keepsDirectories (filled : FilledAt location content before after)
    (held : before.node? location ≠ some .directory) : KeepsDirectories before after :=
  .of_elsewhere held filled.current fun _ different => by
    rw [filled.node, Function.update_of_ne different]

/-- Between two trees a file was written: the path leads to the content, and the other files
are as they were. -/
def Wrote (path : Path) (content : String) (before after : Tree) : Prop :=
  ∃ location, after.locate path = .ok location ∧
    after.content? = Function.update before.content? location (some content)

theorem Wrote.of_grows (grows : Grows before middle) (wrote : Wrote path content middle after) :
    Wrote path content before after := by
  obtain ⟨location, located, filled⟩ := wrote
  exact ⟨location, located, grows.content? ▸ filled⟩

theorem Wrote.readFile (wrote : Wrote path content before after) :
    after.readFile path = .ok content := by
  obtain ⟨location, located, filled⟩ := wrote
  exact readFile_eq_ok_iff.mpr ⟨location, located, by rw [filled, Function.update_self]⟩

/-- Where a file is put at the location of a path, it is written. -/
theorem FilledAt.wrote (filled : FilledAt location content before after)
    (located : before.locate path = .ok location)
    (held : before.node? location ≠ some .directory) : Wrote path content before after :=
  ⟨location, locate_of_keepsDirectories (filled.keepsDirectories held) located, filled.content?⟩

/-- A file that was just written can be written again, which is as good as once. -/
theorem exists_writeFile_again (content : String) {first : String}
    (located : before.locate path = .ok location)
    (held : before.node? location ≠ some .directory) :
    ∃ after, (before.put location (.file first)).writeFile path content = .ok after ∧
      FilledAt location content before after := by
  have below := ne_nil_of_node? held
  have filled : FilledAt location first before (before.put location (.file first)) :=
    filledAt_put first below
  have still := locate_of_keepsDirectories (filled.keepsDirectories held) located
  have again : (before.put location (.file first)).node? location ≠ some .directory := by
    rw [filled.node, Function.update_self]
    exact nofun
  exact ⟨_, writeFile_eq_ok_iff.mpr ⟨location, still, again, rfl⟩,
    filled.trans (filledAt_put content below)⟩

/-- A tree in which a staged file was filled. -/
structure Staged (staged : Location) (content : String) (before filled : Tree) : Prop where
  free : before.node? staged = none
  node : filled.node? = Function.update before.node? staged (some (.file content))

theorem Staged.below {staged : Location} {filled : Tree}
    (stages : Staged staged content before filled) : staged ≠ [] := ne_nil_of_free stages.free

theorem Staged.node?_self {staged : Location} {filled : Tree}
    (stages : Staged staged content before filled) :
    filled.node? staged = some (.file content) := by
  rw [stages.node, Function.update_self]

/-- Without the staged file everything is as it was before. -/
theorem Staged.erase {staged : Location} {filled : Tree}
    (stages : Staged staged content before filled) :
    (filled.erase staged).node? = before.node? := by
  rw [node?_erase stages.below, stages.node, Function.update_idem, ← stages.free,
    Function.update_eq_self]

theorem Staged.of_put (content : String) {staged : Location} (free : before.node? staged = none) :
    Staged staged content before (before.put staged (.file content)) where
  free := free
  node := node?_put _ (ne_nil_of_free free)

/-- A staged file can be filled anew. -/
theorem Staged.put (content : String) {staged : Location} {filled : Tree} {other : String}
    (stages : Staged staged other before filled) :
    Staged staged content before (filled.put staged (.file content)) where
  free := stages.free
  node := by rw [node?_put _ stages.below, stages.node, Function.update_idem]

/-- A staged file is in the way of no path. -/
theorem Staged.directory_iff {staged : Location} {filled : Tree}
    (stages : Staged staged content before filled) :
    filled.node? location = some .directory ↔ before.node? location = some .directory := by
  by_cases same : location = staged
  · rw [same, stages.node?_self, stages.free]
    exact ⟨nofun, nofun⟩
  · rw [stages.node, Function.update_of_ne same]

theorem Staged.locate_iff {staged : Location} {filled : Tree}
    (stages : Staged staged content before filled) (current : filled.current = before.current) :
    filled.locate path = .ok location ↔ before.locate path = .ok location := by
  have back : KeepsDirectories filled before :=
    ⟨current.symm, fun _ => stages.directory_iff.mp⟩
  have forth : KeepsDirectories before filled :=
    ⟨current, fun _ => stages.directory_iff.mpr⟩
  exact ⟨locate_of_keepsDirectories back, locate_of_keepsDirectories forth⟩

/-- A staged file that is moved to a path is all that is put there. -/
theorem Staged.filledAt {staged : Location} {filled : Tree}
    (stages : Staged staged content before filled) (current : filled.current = before.current)
    (moved : filled.moveFile staged path = .ok after) :
    ∃ location, before.locate path = .ok location ∧
      before.node? location ≠ some .directory ∧ FilledAt location content before after := by
  obtain ⟨location, own, located, found, held, rfl⟩ := exists_of_moveFile moved
  have same : own = content := by
    rw [stages.node?_self] at found
    cases found
    rfl
  subst same
  have free : before.node? location ≠ some .directory := mt stages.directory_iff.mpr held
  refine ⟨location, (stages.locate_iff current).mp located, free, current, ?_⟩
  rw [node?_put _ (ne_nil_of_node? free), stages.erase]

end Tree

end ProtocolBindings.Files
