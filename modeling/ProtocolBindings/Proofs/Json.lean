import ProtocolBindings.Json.Access

/-!
# Members and descriptions

A value that is found under a key is held by a member, and a member that was given a value
has it.  A description is a text or missing, and an array of descriptions has one at every
position, since what lies beyond its end is missing.  Whether a value has a type of this kind
can be tested.
-/

namespace ProtocolBindings.Json

/-- A description, which is a text or missing. -/
inductive IsRemark : Json → Prop where
  | null : IsRemark .null
  | text (value : Text) : IsRemark (.text value)

theorem field_eq_null_or (members : List (Text × Json)) (key : Text) :
    field members key = .null ∨ lookup key members = some (field members key) := by
  unfold field
  cases lookup key members with
  | none => exact .inl rfl
  | some value => exact .inr rfl

/-- What holds of an object whenever it holds of the values of its members, and of
everything that is no object, holds of every value. -/
@[elab_as_elim] theorem induct {motive : Json → Prop}
    (other : ∀ value : Json, value.isObject = false → motive value)
    (object : ∀ members : List (Text × Json), (∀ member ∈ members, motive member.2) →
      motive (.object members))
    (value : Json) : motive value := by
  refine Json.rec (motive_1 := motive) (motive_2 := fun _ => True)
    (motive_3 := fun members => ∀ member ∈ members, motive member.2)
    (motive_4 := fun member => motive member.2)
    (other .null rfl) (fun _ => other _ rfl) (fun _ => other _ rfl) (fun _ => other _ rfl)
    (fun _ => other _ rfl) (fun _ _ => other _ rfl) object trivial (fun _ _ _ _ => trivial)
    nofun ?_ (fun _ _ held => held) value
  intro member members first rest
  exact List.forall_mem_cons.mpr ⟨first, rest⟩

theorem mem_of_lookup {key : Text} {value : Json} {members : List (Text × Json)}
    (found : lookup key members = some value) : (key, value) ∈ members := by
  induction members with
  | nil => cases found
  | cons member members ih =>
      obtain ⟨name, held⟩ := member
      rw [lookup] at found
      split at found
      · next here =>
          cases found
          rw [here]
          exact List.mem_cons_self
      · exact List.mem_cons_of_mem _ (ih found)

/-- A key that was given a value has that value. -/
theorem lookup_assign (key : Text) (value : Json) (members : List (Text × Json)) :
    lookup key (assign key value members) = some value := by
  induction members with
  | nil => simp [assign, lookup]
  | cons member members ih =>
      obtain ⟨name, old⟩ := member
      by_cases here : name = key
      · simp [assign, lookup, here]
      · simp [assign, lookup, here, ih]

theorem atPosition_isRemark {items : List Json} (remarks : ∀ item ∈ items, IsRemark item)
    (position : Nat) :
    ∃ value, (Json.array items).atPosition position = .ok value ∧ IsRemark value := by
  refine ⟨_, rfl, ?_⟩
  cases found : items[position]? with
  | none => exact .null
  | some item => exact remarks item (List.mem_of_getElem? found)

/-! ## Tests -/

/-- Whether a value is a text. -/
def isText : Json → Bool
  | .text _ => true
  | _ => false

/-- Whether a value is a description. -/
def isRemark : Json → Bool
  | .null | .text _ => true
  | _ => false

/-- Whether a value is null or passes a test. -/
def isNullOr (test : Json → Bool) : Json → Bool
  | .null => true
  | value => test value

/-- Whether a value is an array whose items pass a test. -/
def isArrayOf (test : Json → Bool) : Json → Bool
  | .array items => items.all test
  | _ => false

/-- Whether a value is an array of texts. -/
def isTextArray : Json → Bool := isArrayOf isText

/-- Whether a value is an object whose values pass a test. -/
def isObjectOf (test : Json → Bool) : Json → Bool
  | .object members => members.all fun member => test member.2
  | _ => false

variable {value : Json} {test : Json → Bool}

theorem isText_iff : value.isText = true ↔ ∃ text, value = .text text := by
  cases value <;> simp [isText]

theorem isNullOr_iff : value.isNullOr test = true ↔ (value ≠ .null → test value = true) := by
  cases value <;> simp [isNullOr]

theorem isArrayOf_iff : value.isArrayOf test = true ↔
    ∃ items, value = .array items ∧ ∀ item ∈ items, test item = true := by
  cases value <;> simp [isArrayOf]

theorem isObjectOf_iff : value.isObjectOf test = true ↔
    ∃ entries, value = .object entries ∧ ∀ entry ∈ entries, test entry.2 = true := by
  cases value <;> simp [isObjectOf]

theorem isRemark_iff : value.isRemark = true ↔ IsRemark value := by
  constructor
  · intro passed
    cases value with
    | null => exact .null
    | text own => exact .text own
    | _ => cases passed
  · rintro (_ | own) <;> rfl

/-- An array of texts is that of a list of texts. -/
theorem isTextArray_iff : value.isTextArray = true ↔
    ∃ names : List Text, value = .array (names.map .text) := by
  rw [isTextArray, isArrayOf_iff]
  constructor
  · rintro ⟨items, rfl, texts⟩
    induction items with
    | nil => exact ⟨[], rfl⟩
    | cons item items ih =>
        obtain ⟨own, later⟩ := List.forall_mem_cons.mp texts
        obtain ⟨name, rfl⟩ := isText_iff.mp own
        obtain ⟨names, same⟩ := ih later
        obtain rfl := Json.array.inj same
        exact ⟨name :: names, rfl⟩
  · rintro ⟨names, rfl⟩
    exact ⟨_, rfl, by simp [isText]⟩

end ProtocolBindings.Json
