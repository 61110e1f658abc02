import Mathlib.Data.List.Nodup
import Mathlib.Data.List.Perm.Basic

/-!
# First occurrences

A loop that passes over what it has seen before keeps each value where it occurs first.
`unseen` is what such a loop keeps, and starts with all the values of `List.eraseDups`.
-/

namespace ProtocolBindings

variable {α : Type} [BEq α]

/-- The values that are not among those seen before, each at its first occurrence. -/
def unseen (seen values : List α) : List α := (values.removeAll seen).eraseDups

theorem unseen_nil (seen : List α) : unseen seen [] = [] := rfl

variable [LawfulBEq α]

theorem nodup_eraseDups (values : List α) : values.eraseDups.Nodup := by
  induction values using (measure (List.length (α := α))).wf.induction with
  | h values shorter =>
      cases values with
      | nil => exact List.nodup_nil
      | cons value values =>
          rw [List.eraseDups_cons, List.nodup_cons]
          constructor
          · simp
          · apply shorter
            exact Nat.lt_succ_of_le (List.length_filter_le _ values)

theorem eraseDups_perm {values others : List α} (permuted : values.Perm others) :
    values.eraseDups.Perm others.eraseDups := by
  rw [List.perm_ext_iff_of_nodup (nodup_eraseDups values) (nodup_eraseDups others)]
  intro value
  rw [List.mem_eraseDups, List.mem_eraseDups, permuted.mem_iff]

theorem unseen_nil_left (values : List α) : unseen [] values = values.eraseDups := by
  simp [unseen, List.removeAll]

theorem mem_unseen_iff {seen values : List α} {value : α} :
    value ∈ unseen seen values ↔ value ∈ values ∧ value ∉ seen := by
  simp [unseen, List.removeAll]

/-- What has been seen matters as a set only. -/
theorem unseen_congr {seen others : List α} (same : ∀ value, value ∈ seen ↔ value ∈ others)
    (values : List α) : unseen seen values = unseen others values := by
  unfold unseen List.removeAll
  congr 1
  apply List.filter_congr
  intro value _
  simp [same value]

theorem unseen_cons_of_mem {seen : List α} {value : α} (known : value ∈ seen)
    (values : List α) : unseen seen (value :: values) = unseen seen values := by
  simp [unseen, List.removeAll, known]

theorem unseen_cons_of_not_mem {seen : List α} {value : α} (fresh : value ∉ seen)
    (values : List α) :
    unseen seen (value :: values) = value :: unseen (value :: seen) values := by
  simp only [unseen, List.removeAll]
  rw [List.filter_cons_of_pos (by simpa using fresh), List.eraseDups_cons, List.filter_filter]
  congr 2
  apply List.filter_congr
  intro other _
  simp [Bool.not_or]

/-- Repeating a value behind an occurrence of it changes nothing. -/
theorem eraseDups_append_cons_of_mem {before : List α} {value : α} (known : value ∈ before)
    (after : List α) :
    (before ++ value :: after).eraseDups = (before ++ after).eraseDups := by
  rw [List.eraseDups_append, List.eraseDups_append]
  congr 1
  exact unseen_cons_of_mem known after

end ProtocolBindings
