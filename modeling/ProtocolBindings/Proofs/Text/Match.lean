import Mathlib.Data.List.Basic
import ProtocolBindings.Text.Basic

/-!
# Matches of patterns

A pattern is a sequence of given texts and of groups, which take one or more symbols but no
line feed.  The ways to match are listed in the order in which they are tried: a group takes
as much as it can, and gives back symbol by symbol as long as the rest does not match.
-/

namespace ProtocolBindings.Text

/-- A part of a pattern. -/
inductive PatternPart where
  | literal (word : Text)
  /-- One or more symbols, none of them a line feed. -/
  | group

/-- A pattern without alternatives. -/
abbrev Pattern := List PatternPart

/-- What a group can take of a text, and what it leaves, the longest way first. -/
def groupSplits : Text → List (Text × Text)
  | [] => []
  | symbol :: rest =>
      if symbol = '\n' then []
      else (groupSplits rest).map (fun split => (symbol :: split.1, split.2)) ++ [([symbol], rest)]

/-- The contents of the groups for each way in which a pattern matches all of a text, in the
order in which the ways are tried. -/
def groupings : Pattern → Text → List (List Text)
  | [], text => if text.isEmpty then [[]] else []
  | .literal word :: parts, text => ((afterStart? word text).map (groupings parts)).getD []
  | .group :: parts, text =>
      (groupSplits text).flatMap fun split => (groupings parts split.2).map (split.1 :: ·)

/-- The contents of the groups where a pattern matches all of a text. -/
def fullMatch? (pattern : Pattern) (text : Text) : Option (List Text) :=
  (groupings pattern text).head?

/-- What a group takes. -/
structure Grouped (taken : Text) : Prop where
  present : taken ≠ []
  singleLine : .char '\n' ∉ taken

/-- A pattern matches all of a text, with some contents of its groups. -/
inductive Matches : Pattern → Text → List Text → Prop where
  | done : Matches [] [] []
  | literal {word : Text} {parts : Pattern} {rest : Text} {groups : List Text} :
      Matches parts rest groups → Matches (.literal word :: parts) (word ++ rest) groups
  | group {taken : Text} {parts : Pattern} {rest : Text} {groups : List Text} :
      Grouped taken → Matches parts rest groups →
      Matches (.group :: parts) (taken ++ rest) (taken :: groups)

theorem mem_groupSplits_iff {text taken rest : Text} :
    (taken, rest) ∈ groupSplits text ↔ Grouped taken ∧ taken ++ rest = text := by
  induction text generalizing taken with
  | nil =>
      rw [groupSplits]
      constructor
      · exact nofun
      · rintro ⟨grouped, joined⟩
        exact absurd (List.append_eq_nil_iff.mp joined).1 grouped.present
  | cons symbol text ih =>
      rw [groupSplits]
      split
      · rename_i feed
        constructor
        · exact nofun
        · rintro ⟨⟨present, singleLine⟩, joined⟩
          obtain ⟨first, more, rfl⟩ := List.exists_cons_of_ne_nil present
          cases joined
          exact absurd (feed ▸ List.mem_cons_self) singleLine
      · rename_i ordinary
        rw [List.mem_append, List.mem_map, List.mem_singleton]
        constructor
        · rintro (⟨⟨others, behind⟩, among, same⟩ | same)
          · cases same
            obtain ⟨⟨present, singleLine⟩, rfl⟩ := ih.mp among
            refine ⟨⟨nofun, fun feed => ?_⟩, rfl⟩
            rcases List.mem_cons.mp feed with first | later
            · exact ordinary first.symm
            · exact singleLine later
          · cases same
            refine ⟨⟨nofun, fun feed => ?_⟩, rfl⟩
            exact ordinary (List.mem_singleton.mp feed).symm
        · rintro ⟨⟨present, singleLine⟩, joined⟩
          obtain ⟨first, more, rfl⟩ := List.exists_cons_of_ne_nil present
          cases joined
          cases more with
          | nil => exact .inr rfl
          | cons second more =>
              have later : Grouped (second :: more) :=
                ⟨nofun, fun feed => singleLine (List.mem_cons_of_mem _ feed)⟩
              exact .inl ⟨(second :: more, rest), ih.mpr ⟨later, rfl⟩, rfl⟩

theorem afterStart?_eq_some_iff {word text rest : Text} :
    afterStart? word text = some rest ↔ word ++ rest = text := by
  rw [afterStart?]
  split
  · rename_i starts
    obtain ⟨behind, rfl⟩ := List.isPrefixOf_iff_prefix.mp starts
    rw [List.drop_left, Option.some.injEq, List.append_cancel_left_eq]
    exact eq_comm
  · rename_i apart
    refine iff_of_false nofun fun joined => apart ?_
    exact List.isPrefixOf_iff_prefix.mpr ⟨rest, joined⟩

/-- The ways that are tried are the ways to match. -/
theorem mem_groupings_iff {pattern : Pattern} {text : Text} {groups : List Text} :
    groups ∈ groupings pattern text ↔ Matches pattern text groups := by
  induction pattern generalizing text groups with
  | nil =>
      rw [groupings]
      constructor
      · intro member
        split at member
        · rename_i empty
          rw [List.isEmpty_iff.mp empty, List.mem_singleton.mp member]
          exact .done
        · cases member
      · intro matching
        cases matching
        exact List.mem_singleton_self _
  | cons part parts ih =>
      cases part with
      | literal word =>
          rw [groupings]
          constructor
          · intro member
            cases found : afterStart? word text with
            | none =>
                rw [found] at member
                cases member
            | some rest =>
                rw [found] at member
                rw [← afterStart?_eq_some_iff.mp found]
                exact .literal (ih.mp member)
          · intro matching
            cases matching with
            | literal later =>
                rw [afterStart?_eq_some_iff.mpr rfl]
                exact ih.mpr later
      | group =>
          rw [groupings, List.mem_flatMap]
          constructor
          · rintro ⟨⟨taken, rest⟩, among, member⟩
            obtain ⟨others, later, rfl⟩ := List.mem_map.mp member
            obtain ⟨grouped, rfl⟩ := mem_groupSplits_iff.mp among
            exact .group grouped (ih.mp later)
          · intro matching
            cases matching with
            | group grouped later =>
                refine ⟨_, mem_groupSplits_iff.mpr ⟨grouped, rfl⟩, ?_⟩
                exact List.mem_map_of_mem (ih.mpr later)

theorem fullMatch?_eq_none_iff {pattern : Pattern} {text : Text} :
    fullMatch? pattern text = none ↔ ∀ groups, ¬ Matches pattern text groups := by
  rw [fullMatch?, List.head?_eq_none_iff, List.eq_nil_iff_forall_not_mem]
  simp only [mem_groupings_iff]

theorem matches_of_fullMatch? {pattern : Pattern} {text : Text} {groups : List Text}
    (found : fullMatch? pattern text = some groups) : Matches pattern text groups :=
  mem_groupings_iff.mp (List.mem_of_head? found)

theorem fullMatch?_literal (word : Text) (parts : Pattern) (rest : Text) :
    fullMatch? (.literal word :: parts) (word ++ rest) = fullMatch? parts rest := by
  rw [fullMatch?, groupings, afterStart?_eq_some_iff.mpr rfl]
  rfl

/-! ## The first group -/

/-- A group takes less and less. -/
theorem groupSplits_pairwise (text : Text) :
    (groupSplits text).Pairwise fun first second => second.1.length < first.1.length := by
  induction text with
  | nil => exact .nil
  | cons symbol text ih =>
      rw [groupSplits]
      split
      · exact .nil
      · refine List.pairwise_append.mpr ⟨?_, List.pairwise_singleton _ _, ?_⟩
        · rw [List.pairwise_map]
          exact ih.imp Nat.succ_lt_succ
        · rintro first member second last
          obtain ⟨⟨taken, rest⟩, among, rfl⟩ := List.mem_map.mp member
          rw [List.mem_singleton.mp last]
          have present := (mem_groupSplits_iff.mp among).1.present
          exact Nat.succ_lt_succ (List.length_pos_iff.mpr present)

/-- The group that a pattern starts with takes as much as it can. -/
theorem length_le_of_fullMatch? {parts : Pattern} {text taken other : Text}
    {groups others : List Text}
    (found : fullMatch? (.group :: parts) text = some (taken :: groups))
    (also : Matches (.group :: parts) text (other :: others)) : other.length ≤ taken.length := by
  have shrinks : (groupings (.group :: parts) text).Pairwise fun first second =>
      (second.headD []).length ≤ (first.headD []).length := by
    rw [groupings, List.flatMap_def, List.pairwise_flatten]
    constructor
    · intro ways member
      obtain ⟨split, -, rfl⟩ := List.mem_map.mp member
      rw [List.pairwise_map]
      exact List.pairwise_of_forall fun _ _ => Nat.le_refl _
    · rw [List.pairwise_map]
      refine (groupSplits_pairwise text).imp fun longer first member second later => ?_
      obtain ⟨_, -, rfl⟩ := List.mem_map.mp member
      obtain ⟨_, -, rfl⟩ := List.mem_map.mp later
      exact Nat.le_of_lt longer
  have among := mem_groupings_iff.mpr also
  rw [fullMatch?] at found
  cases ways : groupings (.group :: parts) text with
  | nil =>
      rw [ways] at found
      cases found
  | cons first rest =>
      rw [ways] at found among shrinks
      cases found
      rcases List.mem_cons.mp among with same | later
      · cases same
        exact Nat.le_refl _
      · exact (List.pairwise_cons.mp shrinks).1 _ later

end ProtocolBindings.Text
