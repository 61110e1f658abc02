import ProtocolBindings.Proofs.FirstOccurrence
import ProtocolBindings.Proofs.Resolve.Nullability
import ProtocolBindings.Proofs.Resolve.TypeForms

/-!
# Types of lists of names

A list of type names stands for one type, which depends on the distinct scalars of its names
alone.  `listedType` gives it case by case, and `collapse_eq_listedType` states that this is
what collapsing a list comes to.  Hence the types of lists that differ in their order or in
repetitions differ at most in the order of a union.
-/

namespace ProtocolBindings.Resolve

open Model
open Traced (EndsAlike)

/-- The names of a list other than null. -/
def nonNull (types : List Text) : List Text := types.filter fun name => name ≠ ("null" : Text)

/-- Some name other than null stands for no scalar. -/
def MemberTable.Misses (table : MemberTable) (types : List Text) : Prop :=
  ∃ name ∈ nonNull types, table.scalar? name = none

instance (table : MemberTable) (types : List Text) : Decidable (table.Misses types) :=
  inferInstanceAs (Decidable (∃ name ∈ nonNull types, table.scalar? name = none))

/-- The scalars of the names other than null, each once, as they are first named. -/
def MemberTable.scalars (table : MemberTable) (types : List Text) : List PrimitiveType :=
  ((nonNull types).filterMap table.scalar?).eraseDups

/-- A list of seven names that are the names of the JSON types. -/
def NamesJsonTypes (types : List Text) : Prop :=
  types.length = 7 ∧ (∀ name ∈ types, name ∈ jsonTypeNames) ∧ ∀ name ∈ jsonTypeNames, name ∈ types

instance (types : List Text) : Decidable (NamesJsonTypes types) :=
  inferInstanceAs (Decidable (_ ∧ _))

/-- The type for which a list of names stands. -/
def listedType (table : MemberTable) (types : List Text) (required : Bool)
    (owner path : Text) : Except Failure TypeDescriptor :=
  let nullable := !required || decide (("null" : Text) ∈ types)
  if NamesJsonTypes types then .ok (TypeDescriptor.any.withNullable nullable)
  else if table.Misses types then .ok (TypeDescriptor.any.withNullable nullable)
  else match table.scalars types with
    | [] => .ok (TypeDescriptor.any.withNullable nullable)
    | [scalar] => .ok (.scalar scalar nullable)
    | [first, second] => .ok (.unionOf [first, second] nullable)
    | [first, second, third] => .ok (.unionOf [first, second, third] nullable)
    | scalars => .error (.resolution ⟨.tooManyAlternatives scalars.length, owner, path⟩)

/-- The type for which a list of names stands when only its scalars are looked at. -/
def collapseScalars (table : MemberTable) (types : List Json) (required : Bool)
    (owner path : Text) : Except Failure TypeDescriptor := do
  let nullable := !required || decide (.text "null" ∈ types)
  match ← (collectScalars table [] types).mapError .misuse with
  | none => return TypeDescriptor.any.withNullable nullable
  | some scalars => ofScalars scalars nullable owner path

/-- Two descriptors that differ at most in the order of their arguments. -/
def SameButForOrder (left right : TypeDescriptor) : Prop :=
  right = { left with arguments := right.arguments } ∧ left.arguments.Perm right.arguments

/-! ## The loop over the names -/

section

variable {table : MemberTable}

theorem nonNull_cons_null (types : List Text) :
    nonNull (("null" : Text) :: types) = nonNull types := by
  simp [nonNull]

theorem nonNull_cons_of_ne {name : Text} (other : name ≠ ("null" : Text)) (types : List Text) :
    nonNull (name :: types) = name :: nonNull types := by
  simp [nonNull, other]

/-- What the loop over the names collects, after what has been collected before. -/
theorem collectScalars_eq (collected : List PrimitiveType) (types : List Text) :
    collectScalars table collected (types.map .text) =
      .ok (if table.Misses types then none
        else some (collected ++ unseen collected ((nonNull types).filterMap table.scalar?))) := by
  induction types generalizing collected with
  | nil => simp [collectScalars, MemberTable.Misses, nonNull, unseen_nil]
  | cons name types ih =>
      rw [List.map_cons, collectScalars]
      by_cases null : name = ("null" : Text)
      · subst null
        have misses : table.Misses (("null" : Text) :: types) ↔ table.Misses types := by
          rw [MemberTable.Misses, MemberTable.Misses, nonNull_cons_null]
        simp only [if_true, ih, misses, nonNull_cons_null]
      · rw [if_neg null]
        cases found : table.scalar? name with
        | none => simp [MemberTable.Misses, nonNull_cons_of_ne null, found]
        | some scalar =>
            have misses : table.Misses (name :: types) ↔ table.Misses types := by
              simp [MemberTable.Misses, nonNull_cons_of_ne null, found]
            have named : (nonNull (name :: types)).filterMap table.scalar? =
                scalar :: (nonNull types).filterMap table.scalar? := by
              simp [nonNull_cons_of_ne null, found]
            simp only [ih, misses, named]
            by_cases known : scalar ∈ collected
            · rw [if_pos known, unseen_cons_of_mem known]
            · have same : ∀ other, other ∈ collected ++ [scalar] ↔ other ∈ scalar :: collected := by
                simp [or_comm]
              rw [if_neg known, unseen_cons_of_not_mem known, unseen_congr same,
                List.append_assoc, List.singleton_append]

theorem collectScalars_nil_eq (types : List Text) :
    collectScalars table [] (types.map .text) =
      .ok (if table.Misses types then none else some (table.scalars types)) := by
  rw [collectScalars_eq, unseen_nil_left, List.nil_append, MemberTable.scalars]

theorem mem_texts_iff {name : Text} {types : List Text} :
    Json.text name ∈ types.map Json.text ↔ name ∈ types := by
  simp

/-- Seven names among which all JSON types are have no other among them. -/
theorem namesEveryType_eq (types : List Text) :
    namesEveryType (types.map .text) = .ok (decide (NamesJsonTypes types)) := by
  have hashable : (types.map Json.text).all Json.hashable = true := by simp [Json.hashable]
  have seven : jsonTypeNames.length = 7 := rfl
  unfold namesEveryType
  by_cases length : types.length = 7
  · have exact : (∀ name ∈ jsonTypeNames, name ∈ types) →
        ∀ name ∈ types, name ∈ jsonTypeNames := by
      intro every name member
      have distinct : jsonTypeNames.Nodup := by decide
      have permuted : jsonTypeNames.Perm types :=
        (List.subperm_of_subset distinct every).perm_of_length_le (by omega)
      exact permuted.mem_iff.mpr member
    simp only [List.length_map, length, seven, if_true, hashable, Except.ok.injEq]
    rw [Bool.eq_iff_iff]
    simp only [List.all_eq_true, decide_eq_true_eq, mem_texts_iff, NamesJsonTypes, length,
      true_and]
    exact ⟨fun every => ⟨exact every, every⟩, fun both => both.2⟩
  · simp [NamesJsonTypes, length, seven]

/-- A list of names stands for the type of its scalars. -/
theorem collapse_eq_ofScalars (types : List Text) (required : Bool) (owner path : Text) :
    collapse table (types.map .text) required owner path =
      if NamesJsonTypes types ∨ table.Misses types then
        .ok (TypeDescriptor.any.withNullable (!required || decide (("null" : Text) ∈ types)))
      else
        ofScalars (table.scalars types) (!required || decide (("null" : Text) ∈ types)) owner
          path := by
  unfold collapse
  rw [namesEveryType_eq, collectScalars_nil_eq]
  simp only [mem_texts_iff]
  by_cases every : NamesJsonTypes types
  · have either : NamesJsonTypes types ∨ table.Misses types := .inl every
    rw [decide_eq_true every, if_pos either]
    rfl
  · rw [decide_eq_false every]
    by_cases misses : table.Misses types
    · have either : NamesJsonTypes types ∨ table.Misses types := .inr misses
      rw [if_pos misses, if_pos either]
      rfl
    · rw [if_neg misses, if_neg (not_or.mpr ⟨every, misses⟩)]
      rfl

theorem collapse_eq_listedType (types : List Text) (required : Bool) (owner path : Text) :
    collapse table (types.map .text) required owner path =
      listedType table types required owner path := by
  rw [collapse_eq_ofScalars, listedType]
  by_cases every : NamesJsonTypes types
  · simp [every]
  · by_cases misses : table.Misses types
    · simp [every, misses]
    · simp only [every, misses, or_self, if_false]
      rcases table.scalars types with _ | ⟨first, _ | ⟨second, _ | ⟨third, _ | ⟨fourth, rest⟩⟩⟩⟩
      · rfl
      · rfl
      · rfl
      · rfl
      · rw [ofScalars_eq, if_pos (by simp [maxUnionArity])]

/-! ## Order and repetition -/

theorem MemberTable.misses_congr {types others : List Text}
    (same : ∀ name, name ∈ types ↔ name ∈ others) :
    table.Misses types ↔ table.Misses others := by
  simp [MemberTable.Misses, nonNull, same]

theorem NamesJsonTypes.perm_iff {types others : List Text} (permuted : types.Perm others) :
    NamesJsonTypes types ↔ NamesJsonTypes others := by
  simp [NamesJsonTypes, permuted.length_eq, permuted.mem_iff]

theorem MemberTable.scalars_perm {types others : List Text} (permuted : types.Perm others) :
    (table.scalars types).Perm (table.scalars others) := by
  apply eraseDups_perm
  apply List.Perm.filterMap
  exact permuted.filter _

theorem MemberTable.scalars_append_cons_of_mem {before : List Text} {name : Text}
    (known : name ∈ before) (after : List Text) :
    table.scalars (before ++ name :: after) = table.scalars (before ++ after) := by
  by_cases null : name = ("null" : Text)
  · simp [MemberTable.scalars, nonNull, null]
  · cases found : table.scalar? name with
    | none => simp [MemberTable.scalars, nonNull, null, found]
    | some scalar =>
        have collected : scalar ∈ (nonNull before).filterMap table.scalar? :=
          List.mem_filterMap.mpr ⟨name, by simp [nonNull, known, null], found⟩
        have step := eraseDups_append_cons_of_mem collected
          ((nonNull after).filterMap table.scalar?)
        simpa [MemberTable.scalars, nonNull, null, found] using step

theorem SameButForOrder.refl (type : TypeDescriptor) : SameButForOrder type type := by
  cases type
  exact ⟨rfl, List.Perm.refl _⟩

theorem scalarsType_perm {scalars others : List PrimitiveType} (permuted : scalars.Perm others)
    (nullable : Bool) :
    SameButForOrder (scalarsType nullable scalars) (scalarsType nullable others) := by
  match scalars with
  | [] =>
      rw [List.nil_perm.mp permuted]
      exact SameButForOrder.refl _
  | [scalar] =>
      rw [← List.singleton_perm.mp permuted]
      exact SameButForOrder.refl _
  | first :: second :: rest =>
      rcases others with _ | ⟨head, _ | ⟨next, tail⟩⟩
      · cases permuted.length_eq
      · cases permuted.length_eq
      · exact ⟨rfl, permuted.map fun member => TypeDescriptor.scalar member false⟩

/-- Scalars in another order stand for the same type, but for the order of a union. -/
theorem ofScalars_perm {scalars others : List PrimitiveType} (permuted : scalars.Perm others)
    (nullable : Bool) (owner path : Text) :
    EndsAlike SameButForOrder (ofScalars scalars nullable owner path)
      (ofScalars others nullable owner path) := by
  rw [ofScalars_eq, ofScalars_eq, permuted.length_eq]
  split
  · exact .error _
  · exact .ok (scalarsType_perm permuted nullable)

theorem collapse_perm {types others : List Text} (permuted : types.Perm others)
    (required : Bool) (owner path : Text) :
    EndsAlike SameButForOrder (collapse table (types.map .text) required owner path)
      (collapse table (others.map .text) required owner path) := by
  have misses : table.Misses types ↔ table.Misses others :=
    MemberTable.misses_congr fun _ => permuted.mem_iff
  rw [collapse_eq_ofScalars, collapse_eq_ofScalars]
  simp only [NamesJsonTypes.perm_iff permuted, misses, permuted.mem_iff]
  split
  · exact .ok (SameButForOrder.refl _)
  · exact ofScalars_perm (table.scalars_perm permuted) _ owner path

/-- The alternatives of a union are distinct scalars without null. -/
theorem arguments_of_scalarsType {scalars : List PrimitiveType} (distinct : scalars.Nodup)
    (nullable : Bool) :
    (scalarsType nullable scalars).arguments.Nodup ∧
      ∀ member ∈ (scalarsType nullable scalars).arguments, member.nullable = false := by
  match scalars with
  | [] => exact ⟨List.nodup_nil, List.forall_mem_nil _⟩
  | [_] => exact ⟨List.nodup_nil, List.forall_mem_nil _⟩
  | first :: second :: rest =>
      constructor
      · apply distinct.map
        intro left right same
        exact Option.some.inj (congrArg TypeDescriptor.primitive same)
      · intro member inside
        obtain ⟨scalar, _, rfl⟩ := List.mem_map.mp inside
        rfl

theorem arguments_of_collapse {types : List Text} {required : Bool} {owner path : Text}
    {type : TypeDescriptor}
    (succeeded : collapse table (types.map .text) required owner path = .ok type) :
    type.arguments.Nodup ∧ ∀ member ∈ type.arguments, member.nullable = false := by
  rw [collapse_eq_ofScalars] at succeeded
  split at succeeded
  · cases succeeded
    exact ⟨List.nodup_nil, List.forall_mem_nil _⟩
  · obtain ⟨_, rfl⟩ := ofScalars_eq_ok_iff.mp succeeded
    exact arguments_of_scalarsType (nodup_eraseDups _) _

end

/-! ## The standard table -/

/-- Numbers of a type list count as integers. -/
theorem scalar?_standardMembers_ne_number {name : Text} {scalar : PrimitiveType}
    (found : standardMembers.scalar? name = some scalar) : scalar ≠ .number := by
  have listed : ∀ entry ∈ standardMembers, entry.2 ≠ some .number := by decide
  rw [MemberTable.scalar?, Option.join_eq_some_iff, List.lookup_eq_some_iff] at found
  obtain ⟨before, after, split, _⟩ := found
  have member : (name, some scalar) ∈ standardMembers := by
    rw [split]
    exact List.mem_append_right _ List.mem_cons_self
  intro number
  exact listed _ member (congrArg some number)

/-- Only three scalars are named under the standard table. -/
theorem length_standardScalars_le (types : List Text) :
    (standardMembers.scalars types).length ≤ maxUnionArity := by
  have distinct : (standardMembers.scalars types).Nodup := nodup_eraseDups _
  suffices within : standardMembers.scalars types ⊆ [.string, .integer, .boolean] from
    distinct.length_le_of_subset within
  intro scalar member
  obtain ⟨name, _, found⟩ := List.mem_filterMap.mp (List.mem_eraseDups.mp member)
  have notNumber := scalar?_standardMembers_ne_number found
  cases scalar with
  | number => exact absurd rfl notNumber
  | string | integer | boolean => decide

/-- A list of texts always stands for a type. -/
theorem collapse_texts (types : List Text) (required : Bool) (owner path : Text) :
    ∃ type, collapse standardMembers (types.map .text) required owner path = .ok type := by
  have bounded := length_standardScalars_le types
  rw [collapse_eq_ofScalars]
  split
  · exact ⟨_, rfl⟩
  · exact ⟨_, ofScalars_eq_ok_iff.mpr ⟨bounded, rfl⟩⟩

theorem collapseScalars_eq {table : MemberTable} (types : List Text) (required : Bool)
    (owner path : Text) :
    collapseScalars table (types.map .text) required owner path =
      if table.Misses types then
        .ok (TypeDescriptor.any.withNullable (!required || decide (("null" : Text) ∈ types)))
      else ofScalars (table.scalars types) (!required || decide (("null" : Text) ∈ types))
        owner path := by
  unfold collapseScalars
  rw [collectScalars_nil_eq]
  simp only [mem_texts_iff]
  by_cases misses : table.Misses types
  · rw [if_pos misses, if_pos misses]
    rfl
  · rw [if_neg misses, if_neg misses]
    rfl

/-- Among all JSON types there is one that is no scalar. -/
theorem NamesJsonTypes.misses {types : List Text} (every : NamesJsonTypes types) :
    standardMembers.Misses types := by
  have array : ("array" : Text) ∈ nonNull types := by
    apply List.mem_filter.mpr
    exact ⟨every.2.2 _ (by decide), by decide⟩
  exact ⟨_, array, by decide⟩

theorem collapseScalars_eq_collapse (types : List Text) (required : Bool) (owner path : Text) :
    collapseScalars standardMembers (types.map .text) required owner path =
      collapse standardMembers (types.map .text) required owner path := by
  have either : NamesJsonTypes types ∨ standardMembers.Misses types ↔
      standardMembers.Misses types :=
    or_iff_right_of_imp NamesJsonTypes.misses
  rw [collapseScalars_eq, collapse_eq_ofScalars]
  simp only [either]

theorem collapse_append_cons_of_mem {before : List Text} {name : Text} (known : name ∈ before)
    (after : List Text) (required : Bool) (owner path : Text) :
    collapse standardMembers ((before ++ name :: after).map .text) required owner path =
      collapse standardMembers ((before ++ after).map .text) required owner path := by
  have same : ∀ other, other ∈ before ++ name :: after ↔ other ∈ before ++ after := by
    intro other
    simp only [List.mem_append, List.mem_cons]
    constructor
    · rintro (inside | rfl | inside)
      · exact .inl inside
      · exact .inl known
      · exact .inr inside
    · exact fun inside => inside.imp_right .inr
  rw [← collapseScalars_eq_collapse, ← collapseScalars_eq_collapse, collapseScalars_eq,
    collapseScalars_eq]
  simp only [MemberTable.misses_congr same, same ("null" : Text),
    MemberTable.scalars_append_cons_of_mem known]

/-- What a list of names stands for under any table: its type, case by case, and what such
types have in common. -/
structure StandsForListed (table : MemberTable) (types : List Text) (required : Bool)
    (owner path : Text) : Prop where
  exact : collapse table (types.map .text) required owner path =
    listedType table types required owner path
  nullable : ∀ type, collapse table (types.map .text) required owner path = .ok type →
    type.nullable = (!required || decide (("null" : Text) ∈ types))
  members : ∀ type, collapse table (types.map .text) required owner path = .ok type →
    type.arguments.Nodup ∧ ∀ member ∈ type.arguments, member.nullable = false
  permuted : ∀ others : List Text, types.Perm others →
    EndsAlike SameButForOrder (collapse table (types.map .text) required owner path)
      (collapse table (others.map .text) required owner path)

/-- What only the standard table grants: a list always stands for a type, of which no name
need be repeated, and which its scalars alone decide. -/
structure StandardlyListed (types : List Text) (required : Bool) (owner path : Text) :
    Prop where
  succeeds : ∃ type, collapse standardMembers (types.map .text) required owner path = .ok type
  repeated : ∀ before after name, types = before ++ after → name ∈ before →
    collapse standardMembers ((before ++ name :: after).map .text) required owner path =
      collapse standardMembers (types.map .text) required owner path
  inserted : ∀ before after name, types = before ++ after → name ∈ types →
    EndsAlike SameButForOrder
      (collapse standardMembers ((before ++ name :: after).map .text) required owner path)
      (collapse standardMembers (types.map .text) required owner path)
  byScalars : collapseScalars standardMembers (types.map .text) required owner path =
    collapse standardMembers (types.map .text) required owner path

/-- A list of names stands for the union of its distinct scalars, with the exceptions of
`listedType`, and neither order nor repetition makes a difference beyond the order of that
union. -/
theorem standsForListed (types : List Text) (required : Bool) (owner path : Text) :
    (∀ table, StandsForListed table types required owner path) ∧
      StandardlyListed types required owner path := by
  constructor
  · intro table
    refine ⟨collapse_eq_listedType types required owner path, ?_, ?_, ?_⟩
    · intro type succeeded
      rw [collapse_nullable succeeded]
      simp only [mem_texts_iff]
    · exact fun type succeeded => arguments_of_collapse succeeded
    · exact fun others permuted => collapse_perm permuted required owner path
  · refine ⟨collapse_texts types required owner path, ?_, ?_,
      collapseScalars_eq_collapse types required owner path⟩
    · rintro before after name rfl known
      exact collapse_append_cons_of_mem known after required owner path
    · rintro before after name rfl known
      -- The copy is moved to the end, behind the name that it repeats.
      have moved : (before ++ name :: after).Perm ((before ++ after) ++ name :: []) := by
        apply List.perm_middle.trans
        exact (List.perm_append_singleton name (before ++ after)).symm
      have alike := @collapse_perm standardMembers _ _ moved required owner path
      rw [collapse_append_cons_of_mem known, List.append_nil] at alike
      exact alike

/-- Numbers count as integers, which are named first here. -/
example : collapse standardMembers [.text "number", .text "null", .text "string",
    .text "integer"] true "" "" = .ok (.unionOf [.integer, .string] true) := rfl

end ProtocolBindings.Resolve
