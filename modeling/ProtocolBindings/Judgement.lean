import ProtocolBindings.Text.Basic

/-!
# Judgements on code

Code is judged before it replaces anything.  It may be rejected with a message;
and it may be such that it cannot be judged at all, or not even be encoded.
-/

namespace ProtocolBindings

/-- Why code is not accepted. -/
inductive CodeFault where
  /-- It was rejected. -/
  | rejected (message : Text)
  /-- It has a null character, and cannot be judged. -/
  | nullCharacter
  /-- It has half of a surrogate pair, and cannot be encoded. -/
  | loneHalf
deriving DecidableEq, Repr

/-- A judgement on code. -/
abbrev Validator := Text → Except CodeFault Unit

/-- The string of code that can be encoded. -/
def encodable (code : Text) : Except CodeFault String :=
  match code.string? with
  | some string => .ok string
  | none => .error .loneHalf

/-- The code of a string can be encoded. -/
@[simp] theorem encodable_ofString (string : String) :
    encodable (Text.ofString string) = .ok string := by
  simp [encodable]

end ProtocolBindings
