import ProtocolBindings.Proofs.Resolve.Analysis
import ProtocolBindings.Proofs.Resolve.EntityNames
import ProtocolBindings.Proofs.Schema.Definitions

/-!
# The order of the definitions

What a definition contributes to a model depends on the definition itself and on the
definitions found by their names.  So the order in which a document lists its definitions
decides nothing but the order of the lists of its model.
-/

namespace ProtocolBindings

/-- Two models with the same contents in another order. -/
structure Model.Rearranged (left right : Model) : Prop where
  entities : left.entities.Perm right.entities
  requests : left.requests.Perm right.requests
  events : left.events.Perm right.events
  version : left.version = right.version
  lookups : ∀ name, left.entity? name = right.entity? name

namespace Model

theorem entity?_perm {left right : Model}
    (distinct : (left.entities.map Entity.name).Nodup)
    (permuted : left.entities.Perm right.entities) (name : Text) :
    left.entity? name = right.entity? name := by
  have rightDistinct := (permuted.map Entity.name).nodup_iff.mp distinct
  ext entity
  constructor
  · intro found
    obtain ⟨member, rfl⟩ := mem_of_entity? found
    exact entity?_name_of_nodup rightDistinct (permuted.mem_iff.mp member)
  · intro found
    obtain ⟨member, rfl⟩ := mem_of_entity? found
    exact entity?_name_of_nodup distinct (permuted.mem_iff.mpr member)

end Model

namespace Resolve

open Schema (Definition definition? documentOf)
open Reference (Follow)

section

variable {config : Config} {definitions others : List Definition} {version : Json}

theorem followIn_congr (same : definition? definitions = definition? others) :
    followIn config definitions = followIn config others := by
  rw [followIn, followIn, same]

/-- A definition contributes the same if the same definitions are found by name. -/
theorem contribution_congr (same : definition? definitions = definition? others)
    (follow : Follow) (definition : Definition) :
    contribution config follow definitions definition =
      contribution config follow others definition := by
  simp only [contribution, pairRequest, same]

theorem assembled_perm {parts moved : List Contribution} (permuted : parts.Perm moved)
    (distinct : ((assembled version parts).entities.map Model.Entity.name).Nodup) :
    (assembled version parts).Rearranged (assembled version moved) where
  entities := permuted.flatMap_right _
  requests := permuted.flatMap_right _
  events := permuted.flatMap_right _
  version := rfl
  lookups := Model.entity?_perm distinct (permuted.flatMap_right _)

/-- Definitions in another order are as resolvable, and contribute the same. -/
theorem Resolvable.perm (distinct : (definitions.map Definition.name).Nodup)
    (permuted : definitions.Perm others) {contributionOf : Definition → Contribution}
    (resolvable : Resolvable config definitions contributionOf definitions) :
    Resolvable config others contributionOf others := by
  have same := Schema.definition?_perm distinct permuted
  have keptPermuted : (kept config definitions).Perm (kept config others) :=
    permuted.filter _
  refine ⟨?_, ?_, ?_⟩
  · intro definition member
    exact resolvable.decided definition (permuted.mem_iff.mpr member)
  · intro definition member
    have contributed := contribution_ok_iff.mpr
      (resolvable.each definition (keptPermuted.mem_iff.mpr member))
    rw [followIn_congr same, contribution_congr same] at contributed
    exact contribution_ok_iff.mp contributed
  · exact (keptPermuted.flatMap_right _).nodup_iff.mp resolvable.fresh

theorem analyze_perm (distinct : (definitions.map Definition.name).Nodup)
    (permuted : definitions.Perm others) {model : Model}
    (analyzed : (analyze config definitions version).outcome = .ok model) :
    ∃ moved, (analyze config others version).outcome = .ok moved ∧ model.Rearranged moved := by
  -- The names of the entities, unlike those of the definitions, are distinct only because
  -- there is a model.
  have namesDistinct := names_nodup_of_analyze analyzed
  obtain ⟨contributionOf, resolvable, rfl⟩ := analyze_iff_resolvable.mp analyzed
  refine ⟨assembled version ((kept config others).map contributionOf), ?_,
    assembled_perm ((permuted.filter _).map contributionOf) namesDistinct⟩
  exact analyze_iff_resolvable.mpr ⟨contributionOf, resolvable.perm distinct permuted, rfl⟩

end

section

variable {config : Config} {members entries others : List (Text × Json)} {version : Json}

/-- A document with its definitions in another order has the same model in another order. -/
theorem resolve_perm (distinct : (entries.map Prod.fst).Nodup) (permuted : entries.Perm others)
    {model : Model}
    (resolved : (resolve config (documentOf members entries) version).outcome = .ok model) :
    ∃ moved, (resolve config (documentOf members others) version).outcome = .ok moved ∧
      model.Rearranged moved := by
  rw [resolve, Traced.outcome_bind_eq_ok_iff] at resolved
  obtain ⟨definitions, read, analyzed⟩ := resolved
  have listed := Schema.read_documentOf_ok_iff.mp read
  obtain ⟨movedDefinitions, movedListed, moves⟩ := Schema.readDefinitions_perm permuted listed
  have named := Schema.names_nodup_of_readDefinitions distinct listed
  obtain ⟨moved, movedAnalyzed, rearranged⟩ := analyze_perm named moves analyzed
  refine ⟨moved, ?_, rearranged⟩
  rw [resolve, Traced.outcome_bind_eq_ok_iff]
  exact ⟨movedDefinitions, Schema.read_documentOf_ok_iff.mpr movedListed, movedAnalyzed⟩

end

/-- The order in which a document lists its definitions decides neither whether it has a
model nor what the model holds. -/
theorem rearranged_of_resolve (config : Config) (members : List (Text × Json))
    {entries others : List (Text × Json)} (distinct : (entries.map Prod.fst).Nodup)
    (permuted : entries.Perm others) (version : Json) :
    ((∃ model, (resolve config (documentOf members entries) version).outcome = .ok model) ↔
      ∃ model, (resolve config (documentOf members others) version).outcome = .ok model) ∧
    ∀ model moved,
      (resolve config (documentOf members entries) version).outcome = .ok model →
      (resolve config (documentOf members others) version).outcome = .ok moved →
      model.Rearranged moved := by
  have othersDistinct := (permuted.map Prod.fst).nodup_iff.mp distinct
  refine ⟨⟨?_, ?_⟩, ?_⟩
  · rintro ⟨model, resolved⟩
    obtain ⟨moved, ended, _⟩ := resolve_perm distinct permuted resolved
    exact ⟨moved, ended⟩
  · rintro ⟨moved, resolved⟩
    obtain ⟨model, ended, _⟩ := resolve_perm othersDistinct permuted.symm resolved
    exact ⟨model, ended⟩
  · intro model moved resolved movedResolved
    obtain ⟨other, ended, rearranged⟩ := resolve_perm distinct permuted resolved
    rw [movedResolved, Except.ok.injEq] at ended
    rwa [ended]

theorem rearranged_pixelEntries :
    let entries := Schema.pixelEntries
    ∃ model moved, (resolve {} (documentOf [] entries) .null).outcome = .ok model ∧
      (resolve {} (documentOf [] entries.reverse) .null).outcome = .ok moved ∧
      model.entities.map Model.Entity.name = ["Pixel", "PixelColor", "Point"] ∧
      moved.entities.map Model.Entity.name = ["Point", "Pixel", "PixelColor"] ∧
      model.Rearranged moved := by
  intro entries
  have names : (resolve {} (documentOf [] entries) .null).outcome.toOption.map
      (fun model => model.entities.map Model.Entity.name) =
        some (["Pixel", "PixelColor", "Point"] : List Text) := by
    decide +kernel
  have movedNames : (resolve {} (documentOf [] entries.reverse) .null).outcome.toOption.map
      (fun model => model.entities.map Model.Entity.name) =
        some (["Point", "Pixel", "PixelColor"] : List Text) := by
    decide +kernel
  obtain ⟨model, ended, named⟩ := Traced.exists_ok_of_map names
  obtain ⟨moved, movedEnded, movedNamed⟩ := Traced.exists_ok_of_map movedNames
  have distinct : (entries.map Prod.fst).Nodup := by decide +kernel
  have rearranged := (rearranged_of_resolve {} [] distinct (List.reverse_perm entries).symm
    .null).2 model moved ended movedEnded
  exact ⟨model, moved, ended, movedEnded, named, movedNamed, rearranged⟩

end Resolve

end ProtocolBindings
