import ProtocolBindings.Failure
import ProtocolBindings.Json.Basic
import ProtocolBindings.Text.Basic

/-!
# Access to the parts of JSON values

A document may hold a value of any type where another is expected.  Every
access says for which types it has an answer and how it fails for the others:
texts, arrays and objects have items, and whatever has items can be searched.
-/

namespace ProtocolBindings

namespace Json

/-- The members of an object. -/
def members : Json → Except Misuse (List (Text × Json))
  | .object members => .ok members
  | _ => .error .fieldOfNonObject

/-- The members of an object; a value that counts as false stands for no members. -/
def optionalMembers (value : Json) : Except Misuse (List (Text × Json)) :=
  if value.truthy then value.members else .ok []

/-- The items of an array, the symbols of a text, or the keys of an object. -/
def items : Json → Except Misuse (List Json)
  | .array items => .ok items
  | .text value => .ok (value.map fun symbol => .text [symbol])
  | .object members => .ok (members.map fun member => .text member.1)
  | _ => .error .itemsOfScalar

/-- Whether a value holds a text: as an item, as a part, or as a key. -/
def holdsText (container : Json) (sought : Text) : Except Misuse Bool :=
  match container with
  | .array items => .ok (decide (.text sought ∈ items))
  | .text whole => .ok (Text.occursIn sought whole)
  | .object members => .ok (hasKey sought members)
  | _ => .error .searchInScalar

/-- Whether a value holds a text or, for want of one, null. -/
def holds (container : Json) : Option Text → Except Misuse Bool
  | some sought => container.holdsText sought
  | none => match container with
    | .array items => .ok (decide (.null ∈ items))
    | .text _ => .error .searchForNonText
    | .object _ => .ok false
    | _ => .error .searchInScalar

/-- The value at a position: null beyond the end of an array or a text. -/
def atPosition (container : Json) (position : Nat) : Except Misuse Json :=
  match container with
  | .array items => .ok (items[position]?.getD .null)
  | .text value => .ok (match value[position]? with
      | some symbol => .text [symbol]
      | none => .null)
  | .object members =>
      if position < members.length then .error .absentMember else .ok .null
  | _ => .error .lengthOfScalar

/-- The value of a key that may itself be any value: a text names a member, and
of the other values only arrays and objects cannot be keys. -/
def atKey (members : List (Text × Json)) : Json → Except Misuse (Option Json)
  | .text key => .ok (lookup key members)
  | key => if key.hashable then .ok none else .error .unhashable

end Json

end ProtocolBindings
