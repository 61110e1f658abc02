import ProtocolBindings.Proofs.Resolve.Analysis

/-!
# Options that list names

The ignored and the reserved names are usually listed as texts.  Then it is always
decided whether a definition is passed over, and the listed names decide it.
-/

namespace ProtocolBindings

/-- The options that hold names are lists of texts. -/
structure Config.ListsNames (config : Config) (ignored reserved : List Text) : Prop where
  ignored : config.ignoreClasses = some (.array (ignored.map .text))
  reserved : config.reservedBaseTypes = some (.array (reserved.map .text))

theorem Config.listsNames_default : Config.ListsNames {} [] baseMessages := ⟨rfl, rfl⟩

namespace Resolve

open Schema (Definition)

variable {names : List Text} {option : Option Json}

/-- A listed name is held by the option. -/
theorem optionHolds_some (listed : option = some (.array (names.map .text))) (name : Text) :
    optionHolds option (some name) = pure (decide (name ∈ names)) := by
  have inside : (Json.text name ∈ names.map Json.text) ↔ name ∈ names := by simp
  rw [listed, ← decide_eq_decide.mpr inside]
  rfl

/-- No name at all is not held by a list of texts. -/
theorem optionHolds_none (listed : option = some (.array (names.map .text))) :
    optionHolds option none = pure false := by
  have outside : Json.null ∉ names.map Json.text := by simp
  rw [listed, ← decide_eq_false outside]
  rfl

variable {config : Config} {ignored reserved : List Text}

/-- A definition is passed over if its name is listed. -/
theorem isSkipped_of_listsNames (listed : config.ListsNames ignored reserved)
    (definition : Definition) :
    isSkipped config definition =
      pure (decide (definition.name ∈ ignored ∨ definition.name ∈ reserved)) := by
  rw [isSkipped, optionHolds_some listed.ignored, pure_bind]
  by_cases passed : definition.name ∈ ignored
  · simp [passed]
  · simp [passed, optionHolds_some listed.reserved]

/-- A definition is kept if its name is not listed. -/
theorem mem_kept_of_listsNames (listed : config.ListsNames ignored reserved)
    {definition : Definition} {definitions : List Definition} :
    definition ∈ kept config definitions ↔
      definition ∈ definitions ∧ definition.name ∉ ignored ∧ definition.name ∉ reserved := by
  simp [kept, isKept, isSkipped_of_listsNames listed]

end Resolve

end ProtocolBindings
