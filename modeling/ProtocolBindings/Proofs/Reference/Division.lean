import Mathlib.Data.List.TakeDrop
import ProtocolBindings.Proofs.Reference
import ProtocolBindings.Proofs.Schema.Definitions
import ProtocolBindings.Proofs.Text.Match
import ProtocolBindings.Resolve.Basic

/-!
# Division of references

A well-formed reference is divided at a slash into a section and a name, where the section is
as long as it can be.  The slash is the last one that leaves a name behind it and is not the
first symbol of the section.
-/

namespace ProtocolBindings.Reference

open Processing (refuse)
open Resolve (followIn)
open Schema (Definition definition? definitionPath)
open Text (Grouped Matches Pattern fullMatch?)

/-! ## Sections and names -/

/-- A reference that consists of a section and a name, neither of them empty. -/
structure Divides (reference area name : Text) : Prop where
  whole : reference = "#/" ++ (area ++ (Text.ofString "/" ++ name))
  areaTaken : Grouped area
  nameTaken : Grouped name

/-- The section is as long as it can be. -/
structure DividesLast (reference area name : Text) : Prop extends Divides reference area name where
  longest : ∀ {other others}, Divides reference other others → other.length ≤ area.length

theorem DividesLast.unique {reference area name other others : Text}
    (divides : DividesLast reference area name) (also : DividesLast reference other others) :
    name = others := by
  have same : area.length = other.length :=
    Nat.le_antisymm (also.longest divides.toDivides) (divides.longest also.toDivides)
  have joined := List.append_cancel_left (divides.whole.symm.trans also.whole)
  exact List.append_cancel_left (List.append_inj_right joined same)

/-! ## Matching -/

/-- A reference as it is matched: a section and a name behind the marks. -/
def pattern : Pattern := [.literal "#/", .group, .literal "/", .group]

theorem matches_parts {area name : Text} (areaTaken : Grouped area) (nameTaken : Grouped name) :
    Matches [.group, .literal "/", .group] (area ++ (Text.ofString "/" ++ name)) [area, name] := by
  have last : Matches [.group] (name ++ []) [name] := .group nameTaken .done
  rw [List.append_nil] at last
  exact .group areaTaken (.literal last)

theorem matches_pattern_iff {reference : Text} {groups : List Text} :
    Matches pattern reference groups ↔
      ∃ area name, groups = [area, name] ∧ Divides reference area name := by
  constructor
  · intro matching
    cases matching with
    | literal matching =>
        cases matching with
        | group area matching =>
            cases matching with
            | literal matching =>
                cases matching with
                | group name matching =>
                    cases matching
                    exact ⟨_, _, rfl, by rw [List.append_nil], area, name⟩
  · rintro ⟨area, name, rfl, rfl, areaTaken, nameTaken⟩
    exact .literal (matches_parts areaTaken nameTaken)

/-- Matching divides a reference behind the longest section. -/
theorem dividesLast_of_fullMatch? {reference : Text} {groups : List Text}
    (found : fullMatch? pattern reference = some groups) :
    ∃ area name, groups = [area, name] ∧ DividesLast reference area name := by
  obtain ⟨area, name, rfl, divides⟩ := matches_pattern_iff.mp (Text.matches_of_fullMatch? found)
  refine ⟨area, name, rfl, divides, fun {other others} also => ?_⟩
  have joined := List.append_cancel_left (divides.whole.symm.trans also.whole)
  have matching := matches_parts also.areaTaken also.nameTaken
  rw [pattern, divides.whole, Text.fullMatch?_literal] at found
  rw [← joined] at matching
  exact Text.length_le_of_fullMatch? found matching

theorem fullMatch?_pattern_eq_none_iff {reference : Text} :
    fullMatch? pattern reference = none ↔ ∀ area name, ¬ Divides reference area name := by
  rw [Text.fullMatch?_eq_none_iff]
  simp only [matches_pattern_iff]
  constructor
  · exact fun unmatched area name divides => unmatched _ ⟨area, name, rfl, divides⟩
  · rintro undivided _ ⟨area, name, -, divides⟩
    exact undivided area name divides

/-! ## The last slash -/

/-- Where no slash is found, none stands in front of anything. -/
theorem eq_nil_of_splitAtLastSlash {text before after : Text}
    (unsplit : splitAtLastSlash text = none) (whole : text = before ++ .char '/' :: after) :
    after = [] := by
  induction text generalizing before with
  | nil => exact absurd whole.symm (by simp)
  | cons symbol text ih =>
      rw [splitAtLastSlash] at unsplit
      split at unsplit
      · cases unsplit
      · rename_i behind
        cases before with
        | cons first before => exact ih behind (List.cons.inj whole).2
        | nil =>
            obtain ⟨rfl, rfl⟩ := List.cons.inj whole
            by_contra present
            simp [present] at unsplit

/-- A text is split at the last slash that stands in front of something. -/
theorem last_of_splitAtLastSlash {text before after : Text}
    (split : splitAtLastSlash text = some (before, after)) :
    text = before ++ .char '/' :: after ∧ after ≠ [] ∧
      ∀ {other others}, text = other ++ .char '/' :: others → others ≠ [] →
        other.length ≤ before.length := by
  induction text generalizing before after with
  | nil => cases split
  | cons symbol text ih =>
      rw [splitAtLastSlash] at split
      split at split
      · rename_i inner last behind
        cases split
        obtain ⟨rfl, present, longest⟩ := ih behind
        refine ⟨rfl, present, fun {other others} whole named => ?_⟩
        cases other with
        | nil => exact Nat.zero_le _
        | cons first other => exact Nat.succ_le_succ (longest (List.cons.inj whole).2 named)
      · rename_i behind
        split at split
        · rename_i slash
          cases split
          rw [Bool.and_eq_true, decide_eq_true_eq] at slash
          obtain ⟨rfl, present⟩ := slash
          refine ⟨rfl, by simpa using present, fun {other others} whole named => ?_⟩
          cases other with
          | nil => exact Nat.zero_le _
          | cons first other =>
              exact absurd (eq_nil_of_splitAtLastSlash behind (List.cons.inj whole).2) named
        · cases split

/-- The name of a reference is the one behind the longest section. -/
theorem dividesLast_of_name? {reference name : Text} (named : name? reference = some name) :
    ∃ area, DividesLast reference area name := by
  unfold name? at named
  split at named
  · rename_i first rest
    split at named
    · cases named
    · rename_i singleLine
      obtain ⟨⟨before, after⟩, split, rfl⟩ := Option.map_eq_some_iff.mp named
      obtain ⟨rfl, present, longest⟩ := last_of_splitAtLastSlash split
      have ordinary : ∀ symbol ∈ first :: before ++ .char '/' :: after, symbol ≠ '\n' := by
        rintro symbol among rfl
        exact singleLine (List.contains_iff_mem.mpr among)
      have areaLine : .char '\n' ∉ first :: before := fun feed =>
        ordinary _ (List.mem_append_left _ feed) rfl
      have nameLine : .char '\n' ∉ after := fun feed =>
        ordinary _ (List.mem_append_right _ (List.mem_cons_of_mem _ feed)) rfl
      have area : Grouped (first :: before) := ⟨List.cons_ne_nil _ _, areaLine⟩
      refine ⟨first :: before, ⟨rfl, area, present, nameLine⟩, ?_⟩
      · intro other others also
        obtain ⟨start, more, rfl⟩ := List.exists_cons_of_ne_nil also.areaTaken.present
        have whole := (List.cons.inj (List.cons.inj (List.cons.inj also.whole).2).2).2
        exact Nat.succ_le_succ (longest whole also.nameTaken.present)
  · cases named

/-- A reference that can be divided has a name. -/
theorem exists_name?_of_divides {reference area name : Text}
    (divides : Divides reference area name) : ∃ last, name? reference = some last := by
  obtain ⟨rfl, ⟨areaPresent, areaLine⟩, namePresent, nameLine⟩ := divides
  obtain ⟨first, before, rfl⟩ := List.exists_cons_of_ne_nil areaPresent
  have singleLine : ¬ (first :: (before ++ .char '/' :: name)).contains (.char '\n') = true := by
    rw [List.contains_iff_mem, ← List.cons_append, List.mem_append]
    rintro (feed | feed)
    · exact areaLine feed
    · exact nameLine (List.mem_of_ne_of_mem (by decide) feed)
  have named : name? (Text.ofString "#/" ++ (first :: before ++ (Text.ofString "/" ++ name))) =
      (splitAtLastSlash (before ++ .char '/' :: name)).map Prod.snd := if_neg singleLine
  rw [named]
  cases split : splitAtLastSlash (before ++ .char '/' :: name) with
  | none => exact absurd (eq_nil_of_splitAtLastSlash split rfl) namePresent
  | some parts => exact ⟨parts.2, rfl⟩

/-- The name of a reference is what the second group of the pattern holds. -/
theorem name?_eq_matched (reference : Text) :
    name? reference = (fullMatch? pattern reference).bind fun groups => groups[1]? := by
  cases found : fullMatch? pattern reference with
  | none =>
      have undivided := fullMatch?_pattern_eq_none_iff.mp found
      cases named : name? reference with
      | none => rfl
      | some name =>
          obtain ⟨area, divides⟩ := dividesLast_of_name? named
          exact absurd divides.toDivides (undivided area name)
  | some groups =>
      obtain ⟨area, name, rfl, divides⟩ := dividesLast_of_fullMatch? found
      obtain ⟨last, named⟩ := exists_name?_of_divides divides.toDivides
      obtain ⟨other, also⟩ := dividesLast_of_name? named
      rw [named, also.unique divides]
      rfl

/-- The slash behind the marks belongs to the section, and the one at the end to the name. -/
example : name? "#//a/b/" = some (Text.ofString "b/") := by decide

/-! ## Positions of slashes -/

/-- A slash of a reference behind which a name can start. -/
structure DividedAt (reference : Text) (index : Nat) : Prop where
  late : 3 ≤ index
  slash : reference[index]? = some (.char '/')
  followed : index + 1 < reference.length

/-- A reference that starts with the marks, is a single line and has a slash to divide it. -/
structure WellFormed (reference : Text) : Prop where
  marked : Text.ofString "#/" <+: reference
  singleLine : .char '\n' ∉ reference
  divided : ∃ index, DividedAt reference index

/-- The last of the slashes that can divide a reference. -/
structure DividedLastAt (reference : Text) (index : Nat) : Prop extends
    DividedAt reference index where
  last : ∀ {other}, DividedAt reference other → other ≤ index

theorem Divides.dividedAt {reference area name : Text} (divides : Divides reference area name) :
    DividedAt reference (area.length + 2) ∧ reference.drop (area.length + 3) = name := by
  obtain ⟨rfl, areaTaken, nameTaken⟩ := divides
  have written : Text.ofString "#/" ++ (area ++ (Text.ofString "/" ++ name)) =
      .char '#' :: .char '/' :: (area ++ .char '/' :: name) := rfl
  have := List.length_pos_iff.mpr areaTaken.present
  have := List.length_pos_iff.mpr nameTaken.present
  rw [written]
  refine ⟨⟨by omega, by simp, ?_⟩, by simp⟩
  simp only [List.length_cons, List.length_append]
  omega

theorem Divides.wellFormed {reference area name : Text} (divides : Divides reference area name) :
    WellFormed reference := by
  have divided := divides.dividedAt.1
  obtain ⟨rfl, ⟨-, areaLine⟩, -, nameLine⟩ := divides
  refine ⟨List.prefix_append _ _, ?_, _, divided⟩
  simp [Text.ofString, Text.ofCharacters, areaLine, nameLine]

/-- A reference is divided at each slash that can divide it. -/
theorem WellFormed.divides {reference : Text} {index : Nat} (formed : WellFormed reference)
    (divided : DividedAt reference index) :
    ∃ area, area.length + 2 = index ∧ Divides reference area (reference.drop (index + 1)) := by
  obtain ⟨rest, rfl⟩ := formed.marked
  obtain ⟨late, slash, followed⟩ := divided
  obtain ⟨index, rfl⟩ := Nat.exists_eq_add_of_le' (Nat.le_of_succ_le late)
  have written : Text.ofString "#/" ++ rest = .char '#' :: .char '/' :: rest := rfl
  have singleLine := formed.singleLine
  rw [written] at slash followed singleLine ⊢
  rw [List.getElem?_cons_succ, List.getElem?_cons_succ] at slash
  obtain ⟨short, slash⟩ := List.getElem?_eq_some_iff.mp slash
  have whole : rest.take index ++ (.char '/' :: rest.drop (index + 1)) = rest := by
    rw [← slash, ← List.drop_eq_getElem_cons, List.take_append_drop]
  have taken (part : Text) (present : part ≠ []) (within : part ⊆ rest) : Grouped part :=
    ⟨present, fun feed => singleLine
      (List.mem_cons_of_mem _ (List.mem_cons_of_mem _ (within feed)))⟩
  refine ⟨rest.take index, ?_, congrArg (Text.ofString "#/" ++ ·) whole.symm, ?_, ?_⟩
  · rw [List.length_take]
    omega
  · refine taken _ (List.ne_nil_of_length_pos ?_) (List.take_subset index rest)
    rw [List.length_take]
    omega
  · refine taken _ (List.ne_nil_of_length_pos ?_) (List.drop_subset (index + 1) rest)
    simp only [List.length_cons, List.length_drop] at followed ⊢
    omega

/-- The name of a well-formed reference stands behind the last slash that can divide it. -/
theorem WellFormed.name {reference : Text} (formed : WellFormed reference) :
    ∃ index, DividedLastAt reference index ∧
      name? reference = some (reference.drop (index + 1)) := by
  obtain ⟨index, divided⟩ := formed.divided
  obtain ⟨_, -, divides⟩ := formed.divides divided
  obtain ⟨name, named⟩ := exists_name?_of_divides divides
  obtain ⟨area, last⟩ := dividesLast_of_name? named
  obtain ⟨dividedLast, behind⟩ := last.dividedAt
  refine ⟨area.length + 2, ⟨dividedLast, fun {other} also => ?_⟩, by rw [named, behind]⟩
  obtain ⟨shorter, rfl, others⟩ := formed.divides also
  exact Nat.add_le_add_right (last.longest others) 2

theorem name?_of_not_wellFormed {reference : Text} (malformed : ¬ WellFormed reference) :
    name? reference = none := by
  cases named : name? reference with
  | none => rfl
  | some name =>
      obtain ⟨area, last⟩ := dividesLast_of_name? named
      exact absurd last.wellFormed malformed

/-! ## Following -/

/-- How a reference to one of some definitions is followed. -/
structure FollowsReference (definitions : List Definition) (reference : Text) : Prop where
  matched : name? reference = (fullMatch? pattern reference).bind fun groups => groups[1]?
  /-- A well-formed reference is followed to its name, if there is a definition of that name. -/
  wellFormed : WellFormed reference → ∃ index, DividedLastAt reference index ∧
    ∀ config owner place, followIn config definitions owner ⟨place, .text reference⟩ =
      if (definition? definitions (reference.drop (index + 1))).isSome then
        pure (reference.drop (index + 1))
      else refuse (.unresolvedReference reference) owner place.path
  refused : ¬ WellFormed reference → ∀ config owner place, config.strictReferences.truthy = true →
    followIn config definitions owner ⟨place, .text reference⟩ =
      refuse (.malformedReference reference) owner place.path
  /-- One warning is all that comes of a reference that is taken as it is. -/
  verbatim : ¬ WellFormed reference → ∀ config owner place,
    config.strictReferences.truthy = false →
    followIn config definitions owner ⟨place, .text reference⟩ =
      { trail := [.malformedReference reference place.path], outcome := .ok reference } ∧
    (Notice.malformedReference reference place.path).level = .warning

theorem followsReference (definitions : List Definition) (reference : Text) :
    FollowsReference definitions reference where
  matched := name?_eq_matched reference
  wellFormed formed := by
    obtain ⟨index, last, named⟩ := formed.name
    refine ⟨index, last, fun config owner place => ?_⟩
    simp only [followIn, follow, named]
  refused malformed config owner place strict := by
    simp only [followIn, follow, name?_of_not_wellFormed malformed, strict, ↓reduceIte]
  verbatim malformed config owner place lenient := by
    refine ⟨?_, rfl⟩
    simp only [followIn, follow, name?_of_not_wellFormed malformed, lenient, Bool.false_eq_true,
      ↓reduceIte]
    rfl

/-- A name without a slash is the name of each reference that ends with it. -/
theorem name?_of_divides {reference area name : Text} (divides : Divides reference area name)
    (plain : .char '/' ∉ name) : name? reference = some name := by
  obtain ⟨last, named⟩ := exists_name?_of_divides divides
  obtain ⟨other, also⟩ := dividesLast_of_name? named
  have shorter := also.longest divides
  have joined := List.append_cancel_left (divides.whole.symm.trans also.whole)
  rcases List.append_eq_append_iff.mp joined with ⟨between, rfl, behind⟩ | ⟨between, rfl, behind⟩
  · cases between with
    | nil =>
        have same : name = last := (List.cons.inj behind).2
        rw [named, same]
    | cons symbol between =>
        have inner : name = between ++ .char '/' :: last := (List.cons.inj behind).2
        exact absurd (inner ▸ List.mem_append_right _ List.mem_cons_self) plain
  · rw [List.length_append] at shorter
    cases List.length_eq_zero_iff.mp (show between.length = 0 by omega)
    have same : last = name := (List.cons.inj behind).2
    rw [named, same]

theorem name?_definitionPath {name : Text} (taken : Grouped name) (plain : .char '/' ∉ name) :
    name? (definitionPath name) = some name := by
  have area : Grouped (Text.ofString "definitions") := ⟨by decide, by decide⟩
  exact name?_of_divides ⟨rfl, area, taken⟩ plain

/-- Links are followed as the pattern of references says.  The path at which a definition was
read is a reference to it, if its name is neither empty nor has a slash or a line feed. -/
theorem followed_byPattern (definitions : List Definition) :
    (∀ reference, FollowsReference definitions reference) ∧
    (∀ name, (definition? definitions name).isSome → Grouped name → .char '/' ∉ name →
      ∀ config owner place,
        followIn config definitions owner ⟨place, .text (definitionPath name)⟩ = pure name) ∧
    ∀ marker document, (Schema.read marker document).outcome = .ok definitions →
      ∀ definition ∈ definitions, definition.place.path = definitionPath definition.name := by
  refine ⟨followsReference definitions, ?_, ?_⟩
  · intro name known taken plain config owner place
    simp only [followIn, follow, name?_definitionPath taken plain, known, if_true]
  · intro marker document read definition member
    obtain ⟨members, entries, -, -, ended⟩ := Schema.read_ok_iff.mp read
    obtain ⟨value, -, entryRead⟩ :=
      Schema.exists_entry_of_readAs (Schema.readDefinitions_ok_iff.mp ended) definition member
    exact entryRead.path

end ProtocolBindings.Reference
