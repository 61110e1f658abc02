import Mathlib.Data.List.Nodup
import ProtocolBindings.Json.Reader
import ProtocolBindings.Proofs.Failure
import ProtocolBindings.Proofs.Json

/-!
# Objects that are read

An object that is read has each key once, since a key that is met again is given another
value in its place.  This holds of the whole value, at any depth.
-/

namespace ProtocolBindings.Json

theorem mem_keys_assign {key name : Text} {value : Json} {members : List (Text × Json)} :
    name ∈ (assign key value members).map Prod.fst ↔
      name = key ∨ name ∈ members.map Prod.fst := by
  induction members with
  | nil => simp [assign]
  | cons member members ih =>
      obtain ⟨own, old⟩ := member
      rw [assign]
      split
      · rename_i here
        simp [here]
      · rw [List.map_cons, List.mem_cons, ih, List.map_cons, List.mem_cons]
        exact or_left_comm

theorem keys_nodup_assign (key : Text) (value : Json) {members : List (Text × Json)}
    (distinct : (members.map Prod.fst).Nodup) :
    ((assign key value members).map Prod.fst).Nodup := by
  induction members with
  | nil => exact List.nodup_singleton key
  | cons member members ih =>
      obtain ⟨own, old⟩ := member
      obtain ⟨fresh, rest⟩ := List.nodup_cons.mp distinct
      rw [assign]
      split
      · exact distinct
      · rename_i differs
        refine List.nodup_cons.mpr ⟨?_, ih rest⟩
        rw [mem_keys_assign]
        exact not_or.mpr ⟨differs, fresh⟩

theorem keys_nodup_readMembers {rounds : Nat} {before members : List (Text × Json)}
    {characters rest : List Char} (distinct : (before.map Prod.fst).Nodup)
    (read : readMembers rounds before characters = .ok (members, rest)) :
    (members.map Prod.fst).Nodup := by
  -- Each round adds one member to those before it.
  induction rounds generalizing before characters with
  | zero => cases read
  | succ rounds ih =>
      rw [readMembers.eq_def] at read
      dsimp only at read
      split at read
      · obtain ⟨⟨key, afterKey⟩, _, read⟩ := bind_eq_ok_iff.mp read
        split at read
        · obtain ⟨⟨value, afterValue⟩, _, read⟩ := bind_eq_ok_iff.mp read
          have assigned := keys_nodup_assign key value distinct
          dsimp only at read
          split at read
          · cases read
            exact assigned
          · exact ih assigned read
          · cases read
        · cases read
      · cases read

theorem hashable_readUnsigned {negative : Bool} {characters rest : List Char} {value : Json}
    (read : readUnsigned negative characters = .ok (value, rest)) : value.hashable = true := by
  unfold readUnsigned at read
  split at read
  · cases read
  · dsimp only at read
    split at read
    · split at read
      · cases read
      · cases read
        rfl
    · cases read
      rfl

/-- A name or a number is neither an array nor an object. -/
theorem hashable_readAtom {characters rest : List Char} {value : Json}
    (read : readAtom characters = .ok (value, rest)) : value.hashable = true := by
  unfold readAtom at read
  dsimp only at read
  split at read
  · rename_i found
    cases read
    obtain ⟨⟨word, named⟩, member, matched⟩ := List.exists_of_findSome?_eq_some found
    obtain ⟨after, _, same⟩ := Option.map_eq_some_iff.mp matched
    cases same
    simp only [List.mem_cons, Prod.mk.injEq, List.not_mem_nil, or_false] at member
    rcases member with ⟨_, rfl⟩ | ⟨_, rfl⟩ | ⟨_, rfl⟩ | ⟨_, rfl⟩ | ⟨_, rfl⟩ | ⟨_, rfl⟩ <;> rfl
  · split at read
    · exact hashable_readUnsigned read
    · exact hashable_readUnsigned read

theorem keys_nodup_readValue {rounds : Nat} {characters rest : List Char}
    {members : List (Text × Json)}
    (read : readValue rounds characters = .ok (.object members, rest)) :
    (members.map Prod.fst).Nodup := by
  cases rounds with
  | zero => cases read
  | succ rounds =>
      rw [readValue.eq_def] at read
      dsimp only at read
      split at read
      · obtain ⟨_, _, ended⟩ := bind_eq_ok_iff.mp read
        cases ended
      · split at read
        · cases read
        · obtain ⟨_, _, ended⟩ := bind_eq_ok_iff.mp read
          cases ended
      · split at read
        · cases read
          exact List.nodup_nil
        · obtain ⟨⟨found, after⟩, inner, ended⟩ := bind_eq_ok_iff.mp read
          cases ended
          have none : (([] : List (Text × Json)).map Prod.fst).Nodup := List.nodup_nil
          exact keys_nodup_readMembers none inner
      · cases hashable_readAtom read

/-- No key repeats in an object that is read. -/
theorem keys_nodup_read {text : String} {members : List (Text × Json)}
    (read : Json.read text = .ok (.object members)) : (members.map Prod.fst).Nodup := by
  obtain ⟨⟨value, rest⟩, inner, ended⟩ := bind_eq_ok_iff.mp read
  dsimp only at ended
  split at ended
  · cases ended
    exact keys_nodup_readValue inner
  · cases ended

/-- Where no key repeats, every member is found under its key. -/
theorem lookup_of_mem {key : Text} {value : Json} {members : List (Text × Json)}
    (distinct : (members.map Prod.fst).Nodup) (member : (key, value) ∈ members) :
    lookup key members = some value := by
  induction members with
  | nil => cases member
  | cons first members ih =>
      obtain ⟨name, held⟩ := first
      obtain ⟨fresh, rest⟩ := List.nodup_cons.mp distinct
      rw [lookup]
      rcases List.mem_cons.mp member with same | later
      · cases same
        rw [if_pos rfl]
      · have differs : name ≠ key := by
          rintro rfl
          exact fresh (List.mem_map.mpr ⟨_, later, rfl⟩)
        rw [if_neg differs]
        exact ih rest later

/-! ## Whole values -/

/-- A value in which no object repeats a key, at any depth. -/
inductive DistinctKeys : Json → Prop where
  | atom {value : Json} (hashable : value.hashable = true) : DistinctKeys value
  | array {items : List Json} (each : ∀ item ∈ items, DistinctKeys item) :
      DistinctKeys (.array items)
  | object {members : List (Text × Json)} (keys : (members.map Prod.fst).Nodup)
      (values : ∀ member ∈ members, DistinctKeys member.2) : DistinctKeys (.object members)

theorem distinctKeys_array_iff {items : List Json} :
    (array items).DistinctKeys ↔ ∀ item ∈ items, item.DistinctKeys := by
  constructor
  · rintro (hashable | each)
    · cases hashable
    · exact each
  · exact .array

theorem distinctKeys_object_iff {members : List (Text × Json)} :
    (object members).DistinctKeys ↔
      (members.map Prod.fst).Nodup ∧ ∀ member ∈ members, member.2.DistinctKeys := by
  constructor
  · rintro (hashable | _ | ⟨keys, values⟩)
    · cases hashable
    · exact ⟨keys, values⟩
  · rintro ⟨keys, values⟩
    exact .object keys values

theorem mem_assign {key : Text} {value : Json} {members : List (Text × Json)}
    {member : Text × Json} (inside : member ∈ assign key value members) :
    member.2 = value ∨ member ∈ members := by
  induction members with
  | nil => exact .inl (congrArg Prod.snd (List.mem_singleton.mp inside))
  | cons first members ih =>
      obtain ⟨name, old⟩ := first
      rw [assign] at inside
      split at inside
      · rcases List.mem_cons.mp inside with rfl | later
        · exact .inl rfl
        · exact .inr (List.mem_cons_of_mem _ later)
      · rcases List.mem_cons.mp inside with rfl | later
        · exact .inr List.mem_cons_self
        · exact (ih later).imp_right (List.mem_cons_of_mem _)

/-- What some rounds of reading come to: values without repeated keys. -/
structure ReadsDistinct (rounds : Nat) : Prop where
  value : ∀ {characters rest value},
    readValue rounds characters = .ok (value, rest) → value.DistinctKeys
  items : ∀ {characters rest items},
    readItems rounds characters = .ok (items, rest) → ∀ item ∈ items, item.DistinctKeys
  members : ∀ {before characters rest members},
    (∀ member ∈ before, member.2.DistinctKeys) →
      readMembers rounds before characters = .ok (members, rest) →
      ∀ member ∈ members, member.2.DistinctKeys

theorem ReadsDistinct.value_succ {rounds : Nat} (reads : ReadsDistinct rounds)
    {characters rest : List Char} {value : Json}
    (read : readValue (rounds + 1) characters = .ok (value, rest)) : value.DistinctKeys := by
  have whole := read
  rw [readValue.eq_def] at read
  dsimp only at read
  split at read
  · obtain ⟨⟨text, after⟩, _, ended⟩ := bind_eq_ok_iff.mp read
    cases ended
    exact .atom rfl
  · split at read
    · cases read
      exact .array nofun
    · obtain ⟨⟨items, after⟩, inner, ended⟩ := bind_eq_ok_iff.mp read
      cases ended
      exact .array (reads.items inner)
  · split at read
    · cases read
      exact .object List.nodup_nil nofun
    · obtain ⟨⟨members, after⟩, inner, ended⟩ := bind_eq_ok_iff.mp read
      cases ended
      exact .object (keys_nodup_readValue whole) (reads.members (List.forall_mem_nil _) inner)
  · exact .atom (hashable_readAtom read)

theorem ReadsDistinct.items_succ {rounds : Nat} (reads : ReadsDistinct rounds)
    {characters rest : List Char} {items : List Json}
    (read : readItems (rounds + 1) characters = .ok (items, rest)) :
    ∀ item ∈ items, item.DistinctKeys := by
  rw [readItems] at read
  obtain ⟨⟨item, after⟩, first, read⟩ := bind_eq_ok_iff.mp read
  dsimp only at read
  split at read
  · cases read
    exact List.forall_mem_singleton.mpr (reads.value first)
  · obtain ⟨⟨others, rest⟩, later, ended⟩ := bind_eq_ok_iff.mp read
    cases ended
    exact List.forall_mem_cons.mpr ⟨reads.value first, reads.items later⟩
  · cases read

theorem ReadsDistinct.members_succ {rounds : Nat} (reads : ReadsDistinct rounds)
    {before members : List (Text × Json)} {characters rest : List Char}
    (distinct : ∀ member ∈ before, member.2.DistinctKeys)
    (read : readMembers (rounds + 1) before characters = .ok (members, rest)) :
    ∀ member ∈ members, member.2.DistinctKeys := by
  rw [readMembers.eq_def] at read
  dsimp only at read
  split at read
  · obtain ⟨⟨key, afterKey⟩, _, read⟩ := bind_eq_ok_iff.mp read
    dsimp only at read
    split at read
    · obtain ⟨⟨value, afterValue⟩, inner, read⟩ := bind_eq_ok_iff.mp read
      have assigned : ∀ member ∈ assign key value before, member.2.DistinctKeys := by
        intro member inside
        rcases mem_assign inside with same | among
        · exact same ▸ reads.value inner
        · exact distinct member among
      dsimp only at read
      split at read
      · cases read
        exact assigned
      · exact reads.members assigned read
      · cases read
    · cases read
  · cases read

theorem readsDistinct (rounds : Nat) : ReadsDistinct rounds := by
  -- The three readers call one another with one round less.
  induction rounds with
  | zero =>
      constructor
      · intro _ _ _ read
        cases read
      · intro _ _ _ read
        cases read
      · intro _ _ _ _ _ read
        cases read
  | succ rounds ih => exact ⟨ih.value_succ, ih.items_succ, ih.members_succ⟩

/-- No key repeats in a value that is read, at any depth. -/
theorem distinctKeys_read {text : String} {value : Json} (read : Json.read text = .ok value) :
    value.DistinctKeys := by
  obtain ⟨⟨found, rest⟩, inner, ended⟩ := bind_eq_ok_iff.mp read
  dsimp only at ended
  split at ended
  · cases ended
    exact (readsDistinct _).value inner
  · cases ended

end ProtocolBindings.Json
