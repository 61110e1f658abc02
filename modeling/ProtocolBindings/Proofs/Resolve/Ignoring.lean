import Mathlib.Data.List.Flatten
import ProtocolBindings.Proofs.Resolve.Analysis
import ProtocolBindings.Proofs.Schema.Definitions

/-!
# One more ignored name

An ignored definition contributes nothing, but it is still there: it can be referred to,
extended, and bound to a request.  So the other definitions contribute what they did
before, and as fewer names are taken there is no new obstacle to a model.
-/

namespace ProtocolBindings

/-- An array with a text at its end; any other value is left as it is. -/
def Json.withText (value : Json) (text : Text) : Json :=
  match value with
  | .array items => .array (items ++ [.text text])
  | other => other

/-- The configuration that ignores one more name. -/
def Config.ignoring (config : Config) (name : Text) : Config :=
  { config with ignoreClasses := config.ignoreClasses.map (·.withText name) }

namespace Resolve

open Schema (Definition documentOf)

section

variable {config : Config} {items : List Json} {name : Text}

theorem optionHolds_array (items : List Json) (sought : Text) :
    optionHolds (some (.array items)) (some sought) = pure (decide (.text sought ∈ items)) :=
  rfl

/-- The definitions of the name are passed over, and the others are as before. -/
theorem isSkipped_ignoring (listed : config.ignoreClasses = some (.array items))
    (definition : Definition) :
    isSkipped (config.ignoring name) definition =
      if definition.name = name then pure true else isSkipped config definition := by
  have more : (config.ignoring name).ignoreClasses = some (.array (items ++ [.text name])) := by
    rw [Config.ignoring, listed]
    rfl
  have reserved : (config.ignoring name).reservedBaseTypes = config.reservedBaseTypes := rfl
  rw [isSkipped, isSkipped, more, listed, reserved, optionHolds_array, optionHolds_array,
    pure_bind, pure_bind]
  by_cases named : definition.name = name
  · simp [named]
  · simp [named]

theorem isKept_ignoring (listed : config.ignoreClasses = some (.array items))
    (definition : Definition) :
    isKept (config.ignoring name) definition =
      (isKept config definition && definition.name ≠ name) := by
  rw [isKept, isSkipped_ignoring listed]
  by_cases named : definition.name = name
  · simp [named]
  · simp [named, isKept]

theorem kept_ignoring (listed : config.ignoreClasses = some (.array items))
    (definitions : List Definition) :
    kept (config.ignoring name) definitions =
      (kept config definitions).filter fun definition => definition.name ≠ name := by
  rw [kept, kept, List.filter_filter]
  apply List.filter_congr
  intro definition _
  rw [isKept_ignoring listed, Bool.and_comm]

/-- What is ignored has no bearing on what a definition contributes. -/
theorem contribution_ignoring (config : Config) (name : Text) (definitions : List Definition)
    (definition : Definition) :
    contribution (config.ignoring name) (followIn (config.ignoring name) definitions)
        definitions definition =
      contribution config (followIn config definitions) definitions definition :=
  rfl

/-- Definitions that are resolvable are so if one more name is ignored. -/
theorem Resolvable.ignoring (listed : config.ignoreClasses = some (.array items))
    {all rest : List Definition} {contributionOf : Definition → Contribution}
    (resolvable : Resolvable config all contributionOf rest) (name : Text) :
    Resolvable (config.ignoring name) all contributionOf rest := by
  refine ⟨?_, ?_, ?_⟩
  · intro definition member
    rw [isSkipped_ignoring listed]
    split
    · exact ⟨true, rfl⟩
    · exact resolvable.decided definition member
  · intro definition member
    rw [kept_ignoring listed] at member
    have contributed := contribution_ok_iff.mpr
      (resolvable.each definition (List.mem_of_mem_filter member))
    rw [← contribution_ignoring config name] at contributed
    exact contribution_ok_iff.mp contributed
  · rw [kept_ignoring listed]
    exact resolvable.fresh.sublist (List.filter_sublist.flatMap _)

end

/-- Ignoring one more name takes the contributions of its definitions out of the model and
changes nothing else. -/
theorem reduced_of_resolve {config : Config} {items : List Json}
    (listed : config.ignoreClasses = some (.array items)) {document version : Json}
    {model : Model} (resolved : (resolve config document version).outcome = .ok model)
    (name : Text) :
    ∃ definitions contributionOf,
      (Schema.read config.openEnumMarker document).outcome = .ok definitions ∧
      (∀ definition ∈ kept config definitions,
        Contributed config (followIn config definitions) definitions definition
          (contributionOf definition)) ∧
      model = assembled version ((kept config definitions).map contributionOf) ∧
      (resolve (config.ignoring name) document version).outcome =
        .ok (assembled version (((kept config definitions).filter fun definition =>
          definition.name ≠ name).map contributionOf)) ∧
      ∀ definition,
        contribution (config.ignoring name) (followIn (config.ignoring name) definitions)
            definitions definition =
          contribution config (followIn config definitions) definitions definition := by
  rw [resolve, Traced.outcome_bind_eq_ok_iff] at resolved
  obtain ⟨definitions, read, analyzed⟩ := resolved
  obtain ⟨contributionOf, resolvable, same⟩ := analyze_iff_resolvable.mp analyzed
  refine ⟨definitions, contributionOf, read, resolvable.each, same, ?_,
    contribution_ignoring config name definitions⟩
  rw [resolve, Traced.outcome_bind_eq_ok_iff, ← kept_ignoring listed]
  exact ⟨definitions, read, analyze_iff_resolvable.mpr
    ⟨contributionOf, resolvable.ignoring listed name, rfl⟩⟩

theorem reduced_pixelEntries :
    let document := documentOf [] Schema.pixelEntries
    ∃ model reduced definitions contributionOf,
      (resolve {} document .null).outcome = .ok model ∧
      (resolve (Config.ignoring {} "Point") document .null).outcome = .ok reduced ∧
      model.entities.map Model.Entity.name = ["Pixel", "PixelColor", "Point"] ∧
      reduced.entities.map Model.Entity.name = ["Pixel", "PixelColor"] ∧
      model = assembled .null ((kept {} definitions).map contributionOf) ∧
      reduced = assembled .null (((kept {} definitions).filter fun definition =>
        definition.name ≠ ("Point" : Text)).map contributionOf) := by
  intro document
  have names : (resolve {} document .null).outcome.toOption.map
      (fun model => model.entities.map Model.Entity.name) =
        some (["Pixel", "PixelColor", "Point"] : List Text) := by
    decide +kernel
  have fewerNames : (resolve (Config.ignoring {} "Point") document .null).outcome.toOption.map
      (fun model => model.entities.map Model.Entity.name) =
        some (["Pixel", "PixelColor"] : List Text) := by
    decide +kernel
  obtain ⟨model, ended, named⟩ := Traced.exists_ok_of_map names
  obtain ⟨reduced, reducedEnded, reducedNamed⟩ := Traced.exists_ok_of_map fewerNames
  obtain ⟨definitions, contributionOf, _, _, same, without, _⟩ :=
    reduced_of_resolve rfl ended "Point"
  rw [reducedEnded, Except.ok.injEq] at without
  exact ⟨model, reduced, definitions, contributionOf, ended, reducedEnded, named,
    reducedNamed, same, without⟩

end Resolve

end ProtocolBindings
