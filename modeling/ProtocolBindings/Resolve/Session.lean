import ProtocolBindings.Resolve.Basic

/-!
# Sessions

A session resolves one document after another with one configuration.  Between
the documents single fragments can be looked at; their references are followed
in the document that was read last, even if it could not be resolved.
-/

namespace ProtocolBindings.Resolve

open Reference (Follow)

/-- A configuration, and how references are followed at the moment. -/
structure Session where
  config : Config
  follow : Follow := Reference.followNothing

namespace Session

/-- Read and resolve a document.  References are followed in it from now on,
unless it could not be read. -/
def analyze (session : Session) (document version : Json) : Session × Processing Model :=
  let read := Schema.read session.config.openEnumMarker document
  match read.outcome with
  | .ok definitions =>
      ({ session with follow := followIn session.config definitions },
        read >>= fun definitions => Resolve.analyze session.config definitions version)
  | .error error => (session, ⟨read.trail, .error error⟩)

/-- The type of a fragment of a document, which may be missing. -/
def infer (session : Session) (path : Text) (position : Position) (fragment : Option Json) :
    Processing Inference := do
  match fragment with
  | none => inferOptional session.follow position none
  | some fragment =>
      let parsed ← Schema.readFragment session.config.openEnumMarker path fragment
      Resolve.infer session.follow position parsed

end Session

end ProtocolBindings.Resolve
