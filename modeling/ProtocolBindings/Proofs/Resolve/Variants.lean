import ProtocolBindings.Bindings.Renderer
import ProtocolBindings.Proofs.Bindings.Rendering
import ProtocolBindings.Proofs.Model.Variant
import ProtocolBindings.Proofs.Resolve.ModelTypes

/-!
# Variants of models

Inference builds well-formed types only.  Hence every descriptor of a model is a variant,
and has an annotation, at any depth; the type of no value is the whole result of a request
and stands nowhere else.
-/

namespace ProtocolBindings.Resolve

open Model
open Schema (Definition Enumeration Fragment ObjectShape Place)

/-- No part of a type is no value. -/
def HoldsValues (type : TypeDescriptor) : Prop := ∀ part ∈ type.parts, part.kind ≠ .void

theorem holdsValues_of_wellFormed {type : TypeDescriptor} (formed : type.WellFormed) :
    HoldsValues type :=
  fun part member => (formed.parts part member).kind_ne_void

theorem TypesHold.mono {holds larger : TypeDescriptor → Prop} {entities : List Entity}
    {requests : List Request} {events : List Event}
    (all : TypesHold holds entities requests events)
    (weaker : ∀ type, holds type → larger type) :
    TypesHold larger entities requests events where
  properties entity member type own := weaker type (all.properties entity member type own)
  arguments request member type own := weaker type (all.arguments request member type own)
  results request member := by
    obtain ⟨type, returned, known⟩ := all.results request member
    exact ⟨type, returned, known.imp_left (weaker type)⟩
  bodies event member type own := weaker type (all.bodies event member type own)

/-- The descriptors of a model are variants with an annotation, and no value is at most a
whole result. -/
structure ClosedTypes (model : Model) : Prop where
  variants : ∀ type ∈ model.occurrences, type.IsVariant
  values : TypesHold HoldsValues model.entities model.requests model.events
  annotated : ∀ type ∈ model.occurrences, ∀ renderer : Bindings.Renderer,
    ∃ text, (renderer.annotate type).2 = .ok text

/-- A descriptor of a model is well-formed or no value. -/
theorem occurrences_of_analyze {config : Config} {definitions : List Definition}
    {version : Json} {model : Model}
    (analyzed : (analyze config definitions version).outcome = .ok model) :
    ∀ type ∈ model.occurrences, type.WellFormed ∨ type = .void := by
  intro type occurs
  obtain ⟨whole, described, inside⟩ := List.mem_flatMap.mp occurs
  rcases descriptors_of_analyze (preserved_wellFormed _) analyzed whole described with
    formed | rfl
  · exact .inl (formed.parts type inside)
  · rw [TypeDescriptor.parts_void, List.mem_singleton] at inside
    exact .inr inside

/-- Every descriptor of a model is a variant that has an annotation, and no value occurs as
a whole result only. -/
theorem closedTypes_of_analyze {config : Config} {definitions : List Definition}
    {version : Json} {model : Model}
    (analyzed : (analyze config definitions version).outcome = .ok model) :
    ClosedTypes model where
  variants type occurs := by
    rcases occurrences_of_analyze analyzed type occurs with formed | rfl
    · exact formed.isVariant
    · exact TypeDescriptor.isVariant_void
  values := (typesHold_of_analyze (preserved_wellFormed _) analyzed).mono
    fun _ => holdsValues_of_wellFormed
  annotated type occurs renderer := by
    have formed := occurrences_of_analyze analyzed type occurs
    obtain ⟨text, rendered, _⟩ := (Bindings.annotated_of_wellFormed_or_void formed).exists_ok
    exact ⟨text, rendered⟩

/-- Definitions in whose model descriptors of every kind occur. -/
def launchDefinitions : List Definition :=
  let place : Place := ⟨"#/definitions/Launch", .null⟩
  let letters (values : List Text) (isOpen : Bool) : Fragment :=
    .enumeration ⟨place, values, values.map fun _ => .null, isOpen⟩
  let holding (properties : List (Text × Fragment)) : ObjectShape Fragment :=
    ⟨place, properties.map fun (name, type) => ⟨place, name, false, some type⟩, true, .unstated⟩
  let link (name : Text) : Fragment := .reference ⟨place, .text ("#/definitions/" ++ name)⟩
  let extending (base : Text) (properties : List (Text × Fragment)) : Fragment :=
    .composition place (some (link base)) (some (.object (holding properties)))
  [⟨"Request", place, some (.object (holding []))⟩,
    ⟨"Response", place, some (.object (holding []))⟩,
    ⟨"LaunchRequest", place, some (extending "Request" [("command", letters ["launch"] false),
      ("arguments", link "LaunchRequestArguments")])⟩,
    ⟨"LaunchResponse", place, some (extending "Response" [])⟩,
    ⟨"LaunchRequestArguments", place, some (.object (holding [
      ("id", .typeList place [.text "string", .text "integer", .text "null"]),
      ("lines", .array place (some (.object (holding [("kind", letters ["a"] false)])))),
      ("order", letters ["up", "down"] true),
      ("parent", link "LaunchRequestArguments"),
      ("anything", .primitive place (.text ""))]))⟩]

theorem closedTypes_launchDefinitions :
    ∃ model, (analyze {} launchDefinitions .null).outcome = .ok model ∧
      model.occurrences.map TypeDescriptor.kind =
        [.union, .primitive, .primitive, .array, .anonymousObject, .primitive, .reference,
          .any, .inlineEnum, .map, .primitive, .any, .void] ∧
      ClosedTypes model := by
  have kinds : (analyze {} launchDefinitions .null).outcome.toOption.map
      (fun model => model.occurrences.map TypeDescriptor.kind) =
        some [.union, .primitive, .primitive, .array, .anonymousObject, .primitive, .reference,
          .any, .inlineEnum, .map, .primitive, .any, .void] := by
    decide +kernel
  obtain ⟨model, analyzed, known⟩ := Traced.exists_ok_of_map kinds
  exact ⟨model, analyzed, known, closedTypes_of_analyze analyzed⟩

end ProtocolBindings.Resolve
