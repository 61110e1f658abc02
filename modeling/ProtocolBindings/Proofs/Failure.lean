import ProtocolBindings.Failure

/-!
# Failures

What may fail succeeds as a whole when all of its parts do.  A well-shaped document meets
objections only, and of these neither type lists with too many alternatives nor
definitions without a shape.
-/

namespace ProtocolBindings

/-- A sequence succeeds exactly when both of its parts do. -/
theorem bind_eq_ok_iff {ε α β : Type} {first : Except ε α} {next : α → Except ε β} {value : β} :
    (first >>= next) = .ok value ↔ ∃ middle, first = .ok middle ∧ next middle = .ok value := by
  cases first with
  | ok middle =>
      constructor
      · exact fun ended => ⟨middle, rfl, ended⟩
      · rintro ⟨_, ⟨⟩, ended⟩
        exact ended
  | error failure => exact ⟨nofun, nofun⟩

/-- Another failure is no value. -/
theorem mapError_eq_ok_iff {ε δ α : Type} {function : ε → δ} {result : Except ε α} {value : α} :
    result.mapError function = .ok value ↔ result = .ok value := by
  cases result with
  | ok found => exact ⟨fun same => congrArg _ (Except.ok.inj same), fun same => same ▸ rfl⟩
  | error failure => exact ⟨nofun, nofun⟩

theorem toOption_eq_some_iff {ε α : Type} {result : Except ε α} {value : α} :
    result.toOption = some value ↔ result = .ok value := by
  cases result with
  | ok found => exact ⟨fun same => congrArg _ (Option.some.inj same), fun same => same ▸ rfl⟩
  | error failure => exact ⟨nofun, nofun⟩

/-- Whether a well-shaped document can meet an objection.  A malformed reference is one
only under strict reading. -/
def Objection.Expected (strict : Bool) : Objection → Prop
  | .malformedReference _ => strict = true
  | .tooManyAlternatives _ | .unsupportedShape => False
  | _ => True

/-- Whether a well-shaped document can lead to a failure. -/
def Failure.Expected (strict : Bool) : Failure → Prop
  | .resolution error => error.objection.Expected strict
  | .misuse _ => False

/-- The kinds of the objections that well-shaped documents can meet. -/
def expectedKinds : List String :=
  ["UnresolvedReferenceError", "MalformedReferenceError", "MissingResponseDefinitionError",
    "MissingDiscriminatorError", "UnhandledObjectShapeError", "UnsupportedCompositionError",
    "DuplicateEntityNameError"]

theorem Objection.Expected.kind {strict : Bool} {objection : Objection}
    (expected : objection.Expected strict) :
    objection.kind ∈ expectedKinds ∧
      (objection.kind = "MalformedReferenceError" → strict = true) := by
  cases objection with
  | malformedReference reference =>
      exact ⟨by simp [Objection.kind, expectedKinds], fun _ => expected⟩
  | tooManyAlternatives count => exact expected.elim
  | unsupportedShape => exact expected.elim
  | unresolvedReference | missingResponse | missingDiscriminator | propertiesInValues
  | severalInlineObjects | duplicateEntity =>
      exact ⟨by simp [Objection.kind, expectedKinds], by simp [Objection.kind]⟩

end ProtocolBindings
