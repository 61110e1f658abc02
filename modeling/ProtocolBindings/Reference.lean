import ProtocolBindings.Processing
import ProtocolBindings.Schema.Fragment

/-!
# References

A reference is well-formed when it is `#/`, a section, a slash and a name, where
neither section nor name is empty and no line feed occurs.  The name is the text
after the last slash that leaves both non-empty.
-/

namespace ProtocolBindings.Reference

/-- The text before and after the last slash that is not the last symbol. -/
def splitAtLastSlash : Text → Option (Text × Text)
  | [] => none
  | symbol :: rest =>
      match splitAtLastSlash rest with
      | some (before, after) => some (symbol :: before, after)
      | none => if symbol = '/' && !rest.isEmpty then some ([], rest) else none

/-- The name that a well-formed reference ends with. -/
def name? : Text → Option Text
  | .char '#' :: .char '/' :: first :: rest =>
      if (first :: rest).contains (.char '\n') then none
      else (splitAtLastSlash rest).map Prod.snd
  | _ => none

/-- How a link is followed for the definition that owns it. -/
abbrev Follow := (owner : Text) → Schema.Link → Processing Text

/-- The name of the definition that a link refers to.  A reference that is not
well-formed is refused when references are read strictly, and otherwise taken as
the name itself, with a notice. -/
def follow (known : Text → Bool) (strict : Bool) : Follow := fun owner link =>
  match link.target with
  | .text reference =>
      match name? reference with
      | some name =>
          if known name then pure name
          else Processing.refuse (.unresolvedReference reference) owner link.place.path
      | none =>
          if strict then
            Processing.refuse (.malformedReference reference) owner link.place.path
          else do
            Traced.note (.malformedReference reference link.place.path)
            return reference
  | _ => Processing.misused .nonTextReference

/-- No link can be followed before a schema is known. -/
def followNothing : Follow := fun _ _ => Processing.misused .noSchema

end ProtocolBindings.Reference
