import Mathlib.Data.List.Nodup
import ProtocolBindings.Proofs.Bindings.Rendering

/-!
# Every class once

A record is put in order after a search along its bases.  What is in order stays there, and
the names in order stay distinct, so that records with distinct names are only rearranged.
So are enumerations, whatever their names.
-/

namespace ProtocolBindings.Bindings

open Model

theorem orderEnums_perm (enumTypes : List EnumType) : (orderEnums enumTypes).Perm enumTypes :=
  List.perm_append_comm.trans (List.filter_append_perm EnumType.isOpen enumTypes)

variable (records : List Record)

/-- What a search adds to the records in order: records of other names than those, and than
those being appended. -/
structure Extends (appending : List Text) (before after : List Record) : Prop where
  kept : before <+: after
  apart : ∀ other ∈ after, other ∈ before ∨ other.name ∉ appending
  distinct : (before.map Record.name).Nodup → (after.map Record.name).Nodup

theorem Extends.refl (appending : List Text) (ordered : List Record) :
    Extends appending ordered ordered :=
  ⟨List.prefix_rfl, fun _ => .inl, id⟩

/-- A record can be appended last, if its own name was being appended until then. -/
theorem Extends.concat {appending : List Text} {before after : List Record} {record : Record}
    (extension : Extends (record.name :: appending) before after)
    (missing : record.name ∉ before.map Record.name) (idle : record.name ∉ appending) :
    Extends appending before (after ++ [record]) where
  kept := extension.kept.trans (List.prefix_append _ _)
  apart := by
    rintro other member
    rcases List.mem_append.mp member with earlier | last
    · exact (extension.apart other earlier).imp_right (mt (List.mem_cons_of_mem _))
    · rw [List.mem_singleton.mp last]
      exact .inr idle
  distinct := by
    intro distinct
    rw [List.map_append, List.map_singleton, ← List.concat_eq_append, List.nodup_concat]
    refine ⟨fun among => ?_, extension.distinct distinct⟩
    obtain ⟨other, member, same⟩ := List.mem_map.mp among
    rcases extension.apart other member with earlier | foreign
    · exact missing (same ▸ List.mem_map_of_mem earlier)
    · exact foreign (same ▸ List.mem_cons_self)

theorem extends_appendRecord (rounds : Nat) (appending : List Text) (ordered : List Record)
    (record : Record) :
    Extends appending ordered (appendRecord records rounds appending ordered record) := by
  induction rounds generalizing appending ordered record with
  | zero => exact .refl appending ordered
  | succ rounds ih =>
      rw [appendRecord]
      split
      · exact .refl appending ordered
      · rename_i fresh
        simp only [Bool.or_eq_true, List.contains_iff_mem, not_or] at fresh
        obtain ⟨missing, idle⟩ := fresh
        refine Extends.concat ?_ missing idle
        cases baseRecord? records record with
        | none => exact .refl _ ordered
        | some base => exact ih (record.name :: appending) ordered base

/-- With a round to spare, the name of a record is in order afterwards. -/
theorem name_mem_appendRecord (rounds : Nat) (ordered : List Record) (record : Record) :
    record.name ∈ (appendRecord records (rounds + 1) [] ordered record).map Record.name := by
  rw [appendRecord]
  split
  · rename_i present
    simpa using present
  · rw [List.map_append]
    exact List.mem_append_right _ (List.mem_singleton_self _)

/-- Appending records one after another puts the name of each in order. -/
theorem extends_foldl_appendRecord (rounds : Nat) (rest ordered : List Record) :
    Extends [] ordered (rest.foldl (appendRecord records (rounds + 1) []) ordered) ∧
      ∀ record ∈ rest, record.name ∈
        (rest.foldl (appendRecord records (rounds + 1) []) ordered).map Record.name := by
  induction rest generalizing ordered with
  | nil => exact ⟨.refl [] ordered, nofun⟩
  | cons first rest ih =>
      have own := extends_appendRecord records (rounds + 1) [] ordered first
      obtain ⟨later, named⟩ := ih (appendRecord records (rounds + 1) [] ordered first)
      refine ⟨⟨own.kept.trans later.kept, fun _ _ => .inr nofun,
        fun distinct => later.distinct (own.distinct distinct)⟩, ?_⟩
      refine List.forall_mem_cons.mpr ⟨?_, named⟩
      exact (later.kept.map Record.name).subset (name_mem_appendRecord records rounds ordered first)

theorem names_nodup_orderRecords :
    ((orderRecords records).map Record.name).Nodup :=
  (extends_foldl_appendRecord records records.length records []).1.distinct .nil

/-- Records with distinct names are rearranged: none is lost, and none is repeated. -/
theorem orderRecords_perm {records : List Record} (distinct : (records.map Record.name).Nodup) :
    (orderRecords records).Perm records := by
  rw [List.perm_ext_iff_of_nodup (names_nodup_orderRecords records).of_map distinct.of_map]
  intro record
  refine ⟨mem_of_mem_orderRecords record, fun member => ?_⟩
  have named := (extends_foldl_appendRecord records records.length records []).2 record member
  obtain ⟨other, inOrder, same⟩ := List.mem_map.mp named
  have known := mem_of_mem_orderRecords other inOrder
  have equal := List.inj_on_of_nodup_map distinct known member same
  rwa [equal] at inOrder

end ProtocolBindings.Bindings
