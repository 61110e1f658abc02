import Mathlib.Data.List.Induction
import ProtocolBindings.Files.Path

/-!
# Texts and names of paths

A path from the root through names is described by its text.  What a path leads to from a
directory ends with names of its own, behind what is left of the directory.
-/

namespace ProtocolBindings.Files

/-! ## Texts -/

theorem splitAtSlashes_ne_nil (characters : List Char) : splitAtSlashes characters ≠ [] := by
  cases characters with
  | nil => exact List.cons_ne_nil _ _
  | cons character rest =>
      rw [splitAtSlashes]
      split
      · exact List.cons_ne_nil _ _
      · split
        · exact List.cons_ne_nil _ _
        · exact List.cons_ne_nil _ _

theorem splitAtSlashes_of_not_mem {characters : List Char} (unbroken : '/' ∉ characters) :
    splitAtSlashes characters = [characters] := by
  induction characters with
  | nil => rfl
  | cons character rest ih =>
      obtain ⟨differs, later⟩ := not_or.mp (mt List.mem_cons.mpr unbroken)
      rw [splitAtSlashes, if_neg (Ne.symm differs), ih later]

theorem splitAtSlashes_append (front back : List Char) :
    splitAtSlashes (front ++ '/' :: back) = splitAtSlashes front ++ splitAtSlashes back := by
  induction front with
  | nil => rfl
  | cons character rest ih =>
      rw [List.cons_append, splitAtSlashes, splitAtSlashes, ih]
      split
      · rfl
      · cases parts : splitAtSlashes rest with
        | nil => exact absurd parts (splitAtSlashes_ne_nil rest)
        | cons name names => rfl

theorem not_mem_of_mem_splitAtSlashes {characters part : List Char}
    (member : part ∈ splitAtSlashes characters) : '/' ∉ part := by
  induction characters generalizing part with
  | nil =>
      rw [List.mem_singleton.mp member]
      exact List.not_mem_nil
  | cons character rest ih =>
      rw [splitAtSlashes] at member
      split at member
      · rcases List.mem_cons.mp member with rfl | later
        · exact List.not_mem_nil
        · exact ih later
      · rename_i differs
        split at member
        · rw [List.mem_singleton.mp member, List.mem_singleton]
          exact Ne.symm differs
        · rename_i name names split
          rcases List.mem_cons.mp member with rfl | later
          · rw [List.mem_cons, not_or]
            exact ⟨Ne.symm differs, ih (split ▸ List.mem_cons_self)⟩
          · exact ih (split ▸ List.mem_cons_of_mem _ later)

/-- A name that leads down from a directory. -/
structure IsName (name : String) : Prop where
  entered : name.toList ≠ [] ∧ name.toList ≠ ['.']
  down : name ≠ ".."
  unbroken : '/' ∉ name.toList
  valid : '\x00' ∉ name.toList

instance (name : String) : Decidable (IsName name) :=
  decidable_of_iff ((name.toList ≠ [] ∧ name.toList ≠ ['.']) ∧ name ≠ ".." ∧
      '/' ∉ name.toList ∧ '\x00' ∉ name.toList)
    ⟨fun ⟨entered, down, unbroken, valid⟩ => ⟨entered, down, unbroken, valid⟩,
      fun named => ⟨named.entered, named.down, named.unbroken, named.valid⟩⟩

namespace Path

theorem enter_toList {name : String} (entered : name.toList ≠ [] ∧ name.toList ≠ ['.'])
    (path : Path) : path.enter name.toList = .child path name := by
  rw [enter, if_neg (not_or.mpr entered), String.ofList_toList]

/-- A path from the root through names. -/
inductive Rooted : Path → Prop where
  | root : Rooted .root
  | child {directory : Path} {name : String} (rooted : Rooted directory) (named : IsName name) :
      Rooted (.child directory name)

/-- The text of a path from the root starts with a slash, and its parts are the names. -/
theorem Rooted.described {path : Path} (rooted : path.Rooted) :
    path.text.toList.head? = some '/' ∧
      (splitAtSlashes path.text.toList).foldl enter .root = path := by
  induction rooted with
  | root => exact ⟨rfl, rfl⟩
  | @child directory name rooted named ih =>
      obtain ⟨start, parts⟩ := ih
      have last := splitAtSlashes_of_not_mem named.unbroken
      cases rooted with
      | root =>
          have written : (Path.child .root name).text.toList = [] ++ '/' :: name.toList := by
            simp [text]
          rw [written, splitAtSlashes_append, last]
          exact ⟨rfl, enter_toList named.entered .root⟩
      | @child above own _ _ =>
          have written : (Path.child (.child above own) name).text.toList =
              (Path.child above own).text.toList ++ '/' :: name.toList := by
            simp [text, List.append_assoc]
          rw [written, splitAtSlashes_append, last, List.foldl_append, parts]
          refine ⟨?_, enter_toList named.entered _⟩
          rw [List.head?_append, start]
          rfl

/-- A path from the root is what its text describes. -/
theorem Rooted.ofText_text {path : Path} (rooted : path.Rooted) : ofText path.text = path := by
  obtain ⟨start, parts⟩ := rooted.described
  rw [ofText, if_pos start]
  exact parts

theorem Rooted.text_injective {first second : Path} (rooted : first.Rooted)
    (other : second.Rooted) (same : first.text = second.text) : first = second := by
  rw [← rooted.ofText_text, same, other.ofText_text]

/-- The last name of a path is not the text of a path from the root. -/
theorem Rooted.name_ne_text {first second : Path} (rooted : first.Rooted)
    (other : second.Rooted) : first.name ≠ second.text := by
  intro same
  have slash : '/' ∈ first.name.toList := same ▸ List.mem_of_head? other.described.1
  cases rooted with
  | root => exact absurd slash List.not_mem_nil
  | child _ named => exact named.unbroken slash

/-- A name that is entered has no slash, and is neither empty nor a dot. -/
theorem names_foldl_enter {parts : List (List Char)} (unbroken : ∀ part ∈ parts, '/' ∉ part)
    {path : Path} {name : String} (member : name ∈ (parts.foldl enter path).names) :
    name ∈ path.names ∨ (name.toList ≠ [] ∧ name.toList ≠ ['.']) ∧ '/' ∉ name.toList := by
  induction parts generalizing path with
  | nil => exact .inl member
  | cons part parts ih =>
      obtain ⟨first, later⟩ := List.forall_mem_cons.mp unbroken
      rcases ih later member with before | entered
      · rw [enter] at before
        split at before
        · exact .inl before
        · rename_i enters
          rw [names, List.mem_append, List.mem_singleton] at before
          rcases before with above | rfl
          · exact .inl above
          · rw [String.toList_ofList]
            exact .inr ⟨not_or.mp enters, first⟩
      · exact .inr entered

/-- The names of a path that a text describes. -/
theorem names_ofText {word name : String} (member : name ∈ (ofText word).names) :
    (name.toList ≠ [] ∧ name.toList ≠ ['.']) ∧ '/' ∉ name.toList := by
  refine (names_foldl_enter (fun part => not_mem_of_mem_splitAtSlashes) member).resolve_left ?_
  split
  · exact List.not_mem_nil
  · exact List.not_mem_nil

theorem not_mem_of_mentions {path : Path} {character : Char}
    (unmentioned : path.mentions character = false) {name : String} (member : name ∈ path.names) :
    character ∉ name.toList := by
  induction path with
  | root | here => cases member
  | child directory last ih =>
      obtain ⟨above, own⟩ := Bool.or_eq_false_iff.mp unmentioned
      rw [names, List.mem_append, List.mem_singleton] at member
      rcases member with before | rfl
      · exact ih above before
      · simpa using own

/-! ## Paths through names -/

theorem ofNames_concat (names : List String) (name : String) :
    ofNames (names ++ [name]) = .child (ofNames names) name := by
  simp [ofNames]

variable {names : List String}

theorem rooted_ofNames (proper : ∀ name ∈ names, IsName name) : (ofNames names).Rooted := by
  induction names using List.reverseRecOn with
  | nil => exact .root
  | append_singleton front last ih =>
      obtain ⟨above, own⟩ := List.forall_mem_append.mp proper
      rw [ofNames_concat]
      exact .child (ih above) (List.forall_mem_singleton.mp own)

theorem names_ofNames (names : List String) : (ofNames names).names = names := by
  induction names using List.reverseRecOn with
  | nil => rfl
  | append_singleton front last ih => rw [ofNames_concat, Path.names, ih]

theorem ofNames_injective : Function.Injective ofNames := fun first second same => by
  rw [← names_ofNames first, same, names_ofNames]

theorem name_ofNames_concat (names : List String) (name : String) :
    (ofNames (names ++ [name])).name = name := by
  rw [ofNames_concat, Path.name]

theorem resolveFrom_ofNames (proper : ∀ name ∈ names, IsName name) (current : List String) :
    (ofNames names).resolveFrom current = names := by
  induction names using List.reverseRecOn with
  | nil => rfl
  | append_singleton front last ih =>
      obtain ⟨above, own⟩ := List.forall_mem_append.mp proper
      rw [ofNames_concat, resolveFrom, if_neg (List.forall_mem_singleton.mp own).down, ih above]

theorem mentions_ofNames (proper : ∀ name ∈ names, IsName name) :
    (ofNames names).mentions '\x00' = false := by
  induction names using List.reverseRecOn with
  | nil => rfl
  | append_singleton front last ih =>
      obtain ⟨above, own⟩ := List.forall_mem_append.mp proper
      rw [ofNames_concat, mentions, ih above, Bool.false_or]
      simpa using (List.forall_mem_singleton.mp own).valid

/-! ## Where paths lead -/

/-- What a path leads to from a directory consists of proper names. -/
theorem isName_of_mem_resolveFrom {current : List String} {path : Path}
    (proper : ∀ name ∈ current, IsName name)
    (entered : ∀ name ∈ path.names,
      (name.toList ≠ [] ∧ name.toList ≠ ['.']) ∧ '/' ∉ name.toList)
    (unmentioned : path.mentions '\x00' = false) :
    ∀ name ∈ path.resolveFrom current, IsName name := by
  induction path with
  | root => exact nofun
  | here => exact proper
  | child directory last ih =>
      obtain ⟨above, own⟩ := List.forall_mem_append.mp entered
      have others := ih above (Bool.or_eq_false_iff.mp unmentioned).1
      rw [resolveFrom]
      split
      · exact fun name member => others name (List.dropLast_subset _ member)
      · rename_i down
        obtain ⟨enters, unbroken⟩ := List.forall_mem_singleton.mp own
        have valid : '\x00' ∉ last.toList :=
          not_mem_of_mentions unmentioned (List.mem_append_right _ (List.mem_singleton_self last))
        exact List.forall_mem_append.mpr
          ⟨others, List.forall_mem_singleton.mpr ⟨enters, down, unbroken, valid⟩⟩

/-- The names that a path adds to what is left of the directory in which it starts. -/
def ownNames : Path → List String
  | .root | .here => []
  | .child directory name =>
      if name = ".." then directory.ownNames.dropLast else directory.ownNames ++ [name]

/-- A path leads to its own names, behind what is left of the directory. -/
theorem exists_resolveFrom_eq (path : Path) (current : List String) :
    ∃ left, left <+: current ∧ path.resolveFrom current = left ++ path.ownNames := by
  induction path with
  | root => exact ⟨[], List.nil_prefix, rfl⟩
  | here => exact ⟨current, List.prefix_rfl, (List.append_nil current).symm⟩
  | child directory name ih =>
      obtain ⟨left, prior, same⟩ := ih
      rw [resolveFrom, ownNames, same]
      split
      · cases own : directory.ownNames with
        | nil =>
            refine ⟨left.dropLast, left.dropLast_prefix.trans prior, ?_⟩
            rw [List.append_nil]
            exact (List.append_nil _).symm
        | cons first rest =>
            exact ⟨left, prior, List.dropLast_append_of_ne_nil (List.cons_ne_nil first rest)⟩
      · exact ⟨left, prior, List.append_assoc _ _ _⟩

/-- The last of its own names is the name of what a path leads to. -/
theorem name_ofNames_resolveFrom {path : Path} (own : path.ownNames ≠ [])
    (current other : List String) :
    (ofNames (path.resolveFrom current)).name = (ofNames (path.resolveFrom other)).name := by
  obtain ⟨left, _, here⟩ := path.exists_resolveFrom_eq current
  obtain ⟨left', _, there⟩ := path.exists_resolveFrom_eq other
  obtain ⟨front, last, ends⟩ := List.eq_nil_or_concat path.ownNames |>.resolve_left own
  rw [here, there, ends, List.concat_eq_append, ← List.append_assoc, ← List.append_assoc,
    name_ofNames_concat, name_ofNames_concat]

/-- Whether a path starts in a directory and never leaves it. -/
def staysInside : Path → Bool
  | .root => false
  | .here => true
  | .child directory name => directory.staysInside && (name != ".." || !directory.ownNames.isEmpty)

/-- A path that stays inside leads to its own names, behind the whole directory. -/
theorem resolveFrom_of_staysInside {path : Path} (inside : path.staysInside = true)
    (current : List String) : path.resolveFrom current = current ++ path.ownNames := by
  induction path with
  | root => cases inside
  | here => exact (List.append_nil current).symm
  | child directory name ih =>
      rw [staysInside, Bool.and_eq_true, Bool.or_eq_true] at inside
      obtain ⟨above, last⟩ := inside
      rw [resolveFrom, ownNames, ih above]
      split
      · rename_i up
        have below : directory.ownNames ≠ [] := by simpa [up] using last
        exact List.dropLast_append_of_ne_nil below
      · exact List.append_assoc _ _ _

end Path

end ProtocolBindings.Files
