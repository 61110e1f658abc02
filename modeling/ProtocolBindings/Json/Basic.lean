import ProtocolBindings.Decimal.Binary64
import ProtocolBindings.Text.Basic

/-!
# JSON values

A JSON value keeps whole numbers apart from fractions, and an object keeps the
order of its members.  Objects that are read have each key once; a lookup takes
the first member of a key.
-/

namespace ProtocolBindings

/-- A JSON value. -/
inductive Json where
  | null
  | bool (value : Bool)
  | integer (value : Int)
  | number (value : Decimal.Binary64)
  | text (value : Text)
  | array (items : List Json)
  | object (members : List (Text × Json))
deriving Repr, Inhabited

namespace Json

mutual

/-- Equality of JSON values is decided part by part. -/
def decideEq : (left right : Json) → Decidable (left = right)
  | .null, .null => isTrue rfl
  | .bool left, .bool right => decidable_of_iff (left = right) (by simp)
  | .integer left, .integer right => decidable_of_iff (left = right) (by simp)
  | .number left, .number right => decidable_of_iff (left = right) (by simp)
  | .text left, .text right => decidable_of_iff (left = right) (by simp)
  | .array left, .array right =>
      match decideEqItems left right with
      | isTrue same => isTrue (same ▸ rfl)
      | isFalse differs => isFalse fun same => differs (Json.array.inj same)
  | .object left, .object right =>
      match decideEqMembers left right with
      | isTrue same => isTrue (same ▸ rfl)
      | isFalse differs => isFalse fun same => differs (Json.object.inj same)
  | .null, .bool _ | .null, .integer _ | .null, .number _ | .null, .text _
  | .null, .array _ | .null, .object _
  | .bool _, .null | .bool _, .integer _ | .bool _, .number _ | .bool _, .text _
  | .bool _, .array _ | .bool _, .object _
  | .integer _, .null | .integer _, .bool _ | .integer _, .number _
  | .integer _, .text _ | .integer _, .array _ | .integer _, .object _
  | .number _, .null | .number _, .bool _ | .number _, .integer _
  | .number _, .text _ | .number _, .array _ | .number _, .object _
  | .text _, .null | .text _, .bool _ | .text _, .integer _ | .text _, .number _
  | .text _, .array _ | .text _, .object _
  | .array _, .null | .array _, .bool _ | .array _, .integer _
  | .array _, .number _ | .array _, .text _ | .array _, .object _
  | .object _, .null | .object _, .bool _ | .object _, .integer _
  | .object _, .number _ | .object _, .text _ | .object _, .array _ =>
      isFalse (by simp)

/-- Equality of lists of values. -/
def decideEqItems : (left right : List Json) → Decidable (left = right)
  | [], [] => isTrue rfl
  | [], _ :: _ => isFalse (by simp)
  | _ :: _, [] => isFalse (by simp)
  | left :: lefts, right :: rights =>
      match decideEq left right, decideEqItems lefts rights with
      | isTrue same, isTrue sames => isTrue (by rw [same, sames])
      | isFalse differs, _ => isFalse fun same => differs (List.cons.inj same).1
      | _, isFalse differs => isFalse fun same => differs (List.cons.inj same).2

/-- Equality of lists of members. -/
def decideEqMembers : (left right : List (Text × Json)) → Decidable (left = right)
  | [], [] => isTrue rfl
  | [], _ :: _ => isFalse (by simp)
  | _ :: _, [] => isFalse (by simp)
  | (leftKey, left) :: lefts, (rightKey, right) :: rights =>
      match decEq leftKey rightKey, decideEq left right, decideEqMembers lefts rights with
      | isTrue sameKey, isTrue same, isTrue sames => isTrue (by rw [sameKey, same, sames])
      | isFalse differs, _, _ =>
          isFalse fun same => differs (congrArg Prod.fst (List.cons.inj same).1)
      | _, isFalse differs, _ =>
          isFalse fun same => differs (congrArg Prod.snd (List.cons.inj same).1)
      | _, _, isFalse differs => isFalse fun same => differs (List.cons.inj same).2

end

instance : DecidableEq Json := decideEq

/-- Whether a value counts as true: null, false, zero and everything empty do not. -/
def truthy : Json → Bool
  | .null => false
  | .bool value => value
  | .integer value => value != 0
  | .number value => !value.isZero
  | .text value => !value.isEmpty
  | .array items => !items.isEmpty
  | .object members => !members.isEmpty

/-- The value of the first member of a key. -/
def lookup (key : Text) : List (Text × Json) → Option Json
  | [] => none
  | (name, value) :: members => if name = key then some value else lookup key members

/-- Whether some member has a key. -/
def hasKey (key : Text) (members : List (Text × Json)) : Bool :=
  (lookup key members).isSome

/-- The value of a member, null when the key is absent. -/
def field (members : List (Text × Json)) (key : Text) : Json :=
  (lookup key members).getD .null

/-- Give a key a value: in place when the key is present, at the end otherwise. -/
def assign (key : Text) (value : Json) : List (Text × Json) → List (Text × Json)
  | [] => [(key, value)]
  | (name, old) :: members =>
      if name = key then (name, value) :: members
      else (name, old) :: assign key value members

/-- Whether a value can be a key or a member of a set: only arrays and objects
cannot. -/
def hashable : Json → Bool
  | .array _ => false
  | .object _ => false
  | _ => true

/-- Whether a value is an object. -/
def isObject : Json → Bool
  | .object _ => true
  | _ => false

end Json

end ProtocolBindings
