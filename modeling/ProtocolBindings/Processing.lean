import ProtocolBindings.Failure
import ProtocolBindings.Notice
import ProtocolBindings.Traced

/-!
# Processing of schemas

The steps from a document to a model leave notices and end with a failure at the
first objection or misuse.
-/

namespace ProtocolBindings

/-- A computation on schemas. -/
abbrev Processing := Traced Notice Failure

namespace Processing

/-- A step that may misuse a value. -/
def checked {α : Type} (step : Except Misuse α) : Processing α :=
  .ofExcept (step.mapError .misuse)

/-- Stop for a misuse. -/
def misused {α : Type} (misuse : Misuse) : Processing α :=
  .fail (.misuse misuse)

/-- Stop for an objection. -/
def refuse {α : Type} (objection : Objection) (owner detail : Text) : Processing α :=
  .fail (.resolution ⟨objection, owner, detail⟩)

end Processing

end ProtocolBindings
