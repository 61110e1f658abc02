import ProtocolBindings.Generation
import ProtocolBindings.Proofs.Bindings.Rendering
import ProtocolBindings.Proofs.Bindings.Whole
import ProtocolBindings.Proofs.Resolve.Failures
import ProtocolBindings.Proofs.Resolve.Whole

/-!
# Generation from well-shaped documents

A well-shaped document has a model, from which code is generated, or is refused for
one of the expected reasons.  Code that is generated from whole texts is the text of a
string, whatever the shape of the document.
-/

namespace ProtocolBindings

/-- The options of a configuration on which generation depends have the right types. -/
structure Config.WellTyped (config : Config) (marker : Text) : Prop where
  marked : config.openEnumMarker = .text marker
  names : ∃ ignored reserved, config.ListsNames ignored reserved
  formatter : ∃ options, config.formatter = .options options

namespace Generation

open Json (lookup IsRemark)

variable {config : Config} {marker commandLine : Text} {document version : Json}

/-- Generated code is that of the model of the document. -/
theorem exists_model_of_generate {code : Text}
    (generated : (generate config document version commandLine).outcome = .ok code) :
    ∃ model, (Resolve.resolve config document version).outcome = .ok model ∧
      (Bindings.moduleText config model (header config version commandLine)).outcome =
        .ok code := by
  obtain ⟨model, resolved, rest⟩ := Traced.outcome_bind_eq_ok_iff.mp generated
  obtain ⟨rendered, drawn, rest⟩ := Traced.outcome_bind_eq_ok_iff.mp rest
  obtain ⟨formatter, _, rest⟩ := Traced.outcome_bind_eq_ok_iff.mp rest
  have same : rendered = code := by
    split at rest
    · obtain ⟨_, _, rest⟩ := Traced.outcome_bind_eq_ok_iff.mp rest
      exact Except.ok.inj rest
    · exact Except.ok.inj rest
  refine ⟨model, resolved, ?_⟩
  rw [← same]
  exact mapError_eq_ok_iff.mp drawn

/-- The header is whole if what it records is. -/
theorem header_whole (config : Config) (stated : version.Whole) (recorded : commandLine.Whole) :
    (header config version commandLine).Whole := by
  rw [header]
  split
  · refine Text.whole_intercalate (Text.whole_ofString _) (List.forall_mem_cons.mpr ⟨by simp, ?_⟩)
    refine List.forall_mem_append.mpr ⟨?_, ?_⟩
    · split
      · exact nofun
      · exact List.forall_mem_singleton.mpr (by simp [recorded])
    · split
      · exact List.forall_mem_singleton.mpr (by simp [stated.display])
      · exact nofun
  · exact Text.whole_ofString ""

/-- Code that is generated from whole texts is whole. -/
theorem generate_whole (names : config.NamesWhole) (whole : document.Whole)
    (stated : version.Whole) (recorded : commandLine.Whole) {code : Text}
    (generated : (generate config document version commandLine).outcome = .ok code) :
    code.Whole := by
  obtain ⟨model, resolved, rendered⟩ := exists_model_of_generate generated
  exact Bindings.moduleText_whole names (Resolve.resolve_whole whole resolved)
    (header_whole config stated recorded) rendered

/-- Code is generated from every renderable model. -/
theorem generate_of_renderable (typed : config.WellTyped marker) {model : Model}
    (resolved : (Resolve.resolve config document version).outcome = .ok model)
    (renderable : model.Renderable) :
    ∃ code, (generate config document version commandLine).outcome = .ok code := by
  obtain ⟨options, given⟩ := typed.formatter
  obtain ⟨code, rendered⟩ :=
    Bindings.moduleText_ok config renderable (header config version commandLine)
  refine ⟨code, ?_⟩
  rw [generate, Traced.bind_of_ok _ resolved, render, rendered, given, Section.get]
  simp only [Processing.checked_ok, pure_bind]
  split
  · rfl
  · rfl

/-- A well-shaped document either has a model, from which code is generated, or is
refused for an expected reason. -/
theorem generate_of_documentShaped (typed : config.WellTyped marker)
    (shaped : Schema.DocumentShaped marker document) (version : Json) :
    (∃ model, (Resolve.resolve config document version).outcome = .ok model ∧
      ∀ commandLine, ∃ code, (generate config document version commandLine).outcome = .ok code) ∨
    ∃ error, (Resolve.resolve config document version).outcome = .error (.resolution error) ∧
      error.objection.kind ∈ expectedKinds ∧
      (error.objection.kind = "MalformedReferenceError" →
        config.strictReferences.truthy = true) := by
  obtain ⟨ignored, reserved, listed⟩ := typed.names
  have ends := Resolve.resolve_ends typed.marked listed shaped version
  cases resolved : (Resolve.resolve config document version).outcome with
  | ok model =>
      refine .inl ⟨model, rfl, fun commandLine => ?_⟩
      exact generate_of_renderable typed resolved (ends.of_ok resolved)
  | error failure =>
      have expected := ends.of_error resolved
      cases failure with
      | misuse misuse => exact expected.elim
      | resolution error => exact .inr ⟨error, rfl, Objection.Expected.kind expected⟩

/-- A document whose only definition is a record. -/
def pointDocument : Json :=
  .object [("definitions", .object [("Point", .object
    [("type", .text "object"),
      ("properties", .object [("x", .object [("type", .text "integer")])])])])]

theorem generate_pointDocument :
    ∃ model, (Resolve.resolve {} pointDocument .null).outcome = .ok model ∧
      ∃ code, (generate {} pointDocument .null "").outcome = .ok code := by
  have typed : Config.WellTyped {} "_enum" :=
    ⟨rfl, ⟨[], baseMessages, Config.listsNames_default⟩, ⟨{}, rfl⟩⟩
  have shaped : Schema.DocumentShaped "_enum" pointDocument := by decide +kernel
  rcases generate_of_documentShaped typed shaped .null with
    ⟨model, resolved, generated⟩ | ⟨error, refused, _⟩
  · exact ⟨model, resolved, generated ""⟩
  · have succeeds : (Resolve.resolve {} pointDocument .null).outcome.isOk = true := by
      decide +kernel
    rw [refused] at succeeds
    cases succeeds

end Generation

end ProtocolBindings
