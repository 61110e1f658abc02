import Mathlib.Data.List.Nodup
import ProtocolBindings.Model.Query
import ProtocolBindings.Proofs.Resolve.Options

/-!
# Names of entities

The names recorded while the definitions are worked through are distinct.  If each
definition can be resolved on its own, then the only obstacle to a model is a
repeated name, and the first definition that repeats one is refused.  The entity found under
a name is the last of that name, so that any entity of a model is found under its own.
-/

namespace ProtocolBindings

namespace Model

theorem mem_of_entity? {model : Model} {name : Text} {entity : Entity}
    (found : model.entity? name = some entity) :
    entity ∈ model.entities ∧ entity.name = name := by
  refine ⟨List.mem_reverse.mp (List.mem_of_find?_eq_some found), ?_⟩
  simpa using List.find?_some found

/-- Without a repeated name every entity is found under its name. -/
theorem entity?_name_of_nodup {model : Model}
    (distinct : (model.entities.map Entity.name).Nodup) {entity : Entity}
    (member : entity ∈ model.entities) : model.entity? entity.name = some entity := by
  cases found : model.entity? entity.name with
  | none =>
      have absent := List.find?_eq_none.mp found entity (List.mem_reverse.mpr member)
      simp at absent
  | some other =>
      obtain ⟨otherMember, same⟩ := mem_of_entity? found
      rw [List.inj_on_of_nodup_map distinct otherMember member same]

end Model

namespace Resolve

open Model
open Schema (Definition Fragment)
open Reference (Follow)

/-- Names repeat one of the earlier names, or one among themselves. -/
def Repeat (earlier names : List Text) : Prop :=
  ¬names.Nodup ∨ ∃ name ∈ names, name ∈ earlier

theorem repeat_iff {earlier names : List Text} (distinct : earlier.Nodup) :
    Repeat earlier names ↔ ¬(earlier ++ names).Nodup := by
  constructor
  · rintro (again | ⟨name, later, early⟩) nodup
    · exact again (List.nodup_append.mp nodup).2.1
    · exact (List.nodup_append.mp nodup).2.2 name early name later rfl
  · intro repeated
    by_contra fresh
    rw [Repeat, not_or, not_not] at fresh
    obtain ⟨own, apart⟩ := fresh
    apply repeated
    rw [List.nodup_append]
    refine ⟨distinct, own, ?_⟩
    rintro name early _ later rfl
    exact apart ⟨name, later, early⟩

/-- A definition is refused for a name that it repeats. -/
def RefusedAsDuplicate {α : Type} (culprit : Definition) (outcome : Except Failure α) : Prop :=
  ∃ name origin previous, outcome = .error (.resolution ⟨
    .duplicateEntity name origin previous, culprit.name, culprit.place.path⟩)

section

variable {config : Config} {follow : Follow} {all rest : List Definition}
variable {namesOf : Definition → List Text}

/-- The first of the definitions that repeats a name is refused. -/
private theorem contributions_refused (origins : Origins) (distinct : origins.names.Nodup)
    (decided : ∀ definition ∈ rest, ∃ skipped,
      (isSkipped config definition).outcome = .ok skipped)
    (each : ∀ definition ∈ kept config rest, ∃ part,
      (contribution config follow all definition).outcome = .ok part ∧
        part.entityNames = namesOf definition)
    (repeated : ¬(origins.names ++ (kept config rest).flatMap namesOf).Nodup) :
    ∃ before culprit after, kept config rest = before ++ culprit :: after ∧
      (origins.names ++ before.flatMap namesOf).Nodup ∧
      ¬(origins.names ++ before.flatMap namesOf ++ namesOf culprit).Nodup ∧
      RefusedAsDuplicate culprit (contributions config follow all origins rest).outcome := by
  induction rest generalizing origins with
  | nil => exact absurd (by simpa [kept] using distinct) repeated
  | cons definition rest ih =>
      have decidedRest := fun other member =>
        decided other (List.mem_cons_of_mem definition member)
      obtain ⟨skipped, judged⟩ := decided definition List.mem_cons_self
      cases skipped with
      | true =>
          rw [kept_cons_of_skipped judged] at each repeated ⊢
          rw [contributions_cons_of_skipped judged]
          exact ih origins distinct decidedRest each repeated
      | false =>
          rw [kept_cons_of_kept judged] at each repeated ⊢
          have eachRest := fun other member =>
            each other (List.mem_cons_of_mem definition member)
          obtain ⟨first, contributed, same⟩ := each definition List.mem_cons_self
          rw [contributions_cons_of_kept judged, Traced.bind_of_ok _ contributed]
          rcases recordOrigins_cases definition origins first.entities distinct with
            ⟨recorded, stored, moved, fresh⟩ | ⟨⟨name, origin, previous, refused⟩, again⟩
          · have recordedRest : ∀ names : List Text,
                (recorded.names ++ names).Nodup ↔
                  (origins.names ++ (namesOf definition ++ names)).Nodup := by
              intro names
              rw [← List.append_assoc, ← same]
              exact (moved.append_right names).nodup_iff
            rw [List.flatMap_cons, ← recordedRest] at repeated
            obtain ⟨before, culprit, after, split, clean, again, name, origin, previous, refused⟩ :=
              ih recorded fresh decidedRest eachRest repeated
            refine ⟨definition :: before, culprit, after, ?_, ?_, ?_, name, origin, previous, ?_⟩
            · rw [split, List.cons_append]
            · rwa [List.flatMap_cons, ← recordedRest]
            · rwa [List.flatMap_cons, List.append_assoc, List.append_assoc, ← recordedRest,
                ← List.append_assoc]
            · rw [Traced.bind_of_ok _ ((Traced.outcome_ofExcept _).trans stored),
                Traced.bind_of_error _ refused]
          · refine ⟨[], definition, kept config rest, rfl, ?_, ?_, name, origin, previous, ?_⟩
            · simpa using distinct
            · rw [List.flatMap_nil, List.append_nil, ← same]
              exact again
            · rw [Traced.bind_of_error _ ((Traced.outcome_ofExcept _).trans refused)]

/-- The entities of a model have distinct names and are found under them.  If the
definitions can be resolved one by one, but names repeat, then the first definition
that repeats a name is refused as a duplicate. -/
theorem entityNames_of_analyze {ignored reserved : List Text}
    (listed : config.ListsNames ignored reserved) (all : List Definition) (version : Json) :
    (∀ model, (analyze config all version).outcome = .ok model →
      (model.entities.map Entity.name).Nodup ∧
        ∀ entity ∈ model.entities, model.entity? entity.name = some entity) ∧
    ∀ contributionOf : Definition → Contribution,
      (∀ definition ∈ kept config all,
        (contribution config (followIn config all) all definition).outcome =
          .ok (contributionOf definition)) →
      ¬((kept config all).flatMap fun definition =>
        (contributionOf definition).entityNames).Nodup →
      ∃ before culprit after, kept config all = before ++ culprit :: after ∧
        (before.flatMap fun definition => (contributionOf definition).entityNames).Nodup ∧
        Repeat (before.flatMap fun definition => (contributionOf definition).entityNames)
          (contributionOf culprit).entityNames ∧
        RefusedAsDuplicate culprit (analyze config all version).outcome := by
  constructor
  · intro model analyzed
    have distinct := names_nodup_of_analyze analyzed
    exact ⟨distinct, fun entity member => entity?_name_of_nodup distinct member⟩
  · intro contributionOf each repeated
    have decided : ∀ definition ∈ all, ∃ skipped,
        (isSkipped config definition).outcome = .ok skipped := by
      intro definition _
      exact ⟨_, congrArg Traced.outcome (isSkipped_of_listsNames listed definition)⟩
    obtain ⟨before, culprit, after, split, clean, again, name, origin, previous, refused⟩ :=
      contributions_refused [] List.nodup_nil decided
        (fun definition member => ⟨_, each definition member, rfl⟩) repeated
    refine ⟨before, culprit, after, split, clean, (repeat_iff clean).mpr again,
      name, origin, previous, ?_⟩
    rw [analyze, Traced.bind_of_error _ refused]

end

/-- Two inline enumerations of one name: one stands in a property of the record, the
other in a record that stands in a property of it. -/
def clashingDefinitions : List Definition :=
  let place : Schema.Place := ⟨"#/definitions/Task", .null⟩
  let letters : Fragment := .enumeration ⟨place, ["a", "b"], [.null, .null], false⟩
  let holding (properties : List (Schema.Property Fragment)) : Fragment :=
    .object ⟨place, properties, true, .unstated⟩
  [⟨"Owner", place, some (holding [⟨place, "name", true, some letters⟩])⟩,
    ⟨"Task", place, some (holding [
      ⟨place, "stateKind", true, some letters⟩,
      ⟨place, "state", true, some (holding [⟨place, "kind", true, some letters⟩])⟩])⟩]

theorem entityNames_clashingDefinitions :
    (∃ model, (analyze {} (clashingDefinitions.take 1) .null).outcome = .ok model ∧
      (model.entities.map Entity.name).Nodup) ∧
    ∃ before culprit after, kept {} clashingDefinitions = before ++ culprit :: after ∧
      RefusedAsDuplicate culprit (analyze {} clashingDefinitions .null).outcome := by
  constructor
  · have names : (analyze {} (clashingDefinitions.take 1) .null).outcome.toOption.map
        (fun model => model.entities.map Entity.name) =
          some (["Owner", "OwnerName"] : List Text) := by
      decide +kernel
    obtain ⟨model, ended, _⟩ := Traced.exists_ok_of_map names
    exact ⟨model, ended, ((entityNames_of_analyze Config.listsNames_default
      (clashingDefinitions.take 1) .null).1 model ended).1⟩
  · let partOf (definition : Definition) : Contribution :=
      (contribution {} (followIn {} clashingDefinitions) clashingDefinitions
        definition).valueOr {}
    have each : ∀ definition ∈ kept {} clashingDefinitions,
        (contribution {} (followIn {} clashingDefinitions) clashingDefinitions
          definition).outcome = .ok (partOf definition) := by
      have ended : (kept {} clashingDefinitions).all (fun definition =>
          (contribution {} (followIn {} clashingDefinitions) clashingDefinitions
            definition).outcome.isOk) = true := by
        decide +kernel
      intro definition member
      exact Traced.outcome_eq_valueOr {} (List.all_eq_true.mp ended definition member)
    have repeated : ¬((kept {} clashingDefinitions).flatMap fun definition =>
        (partOf definition).entityNames).Nodup := by
      decide +kernel
    obtain ⟨before, culprit, after, split, _, _, refused⟩ :=
      (entityNames_of_analyze Config.listsNames_default clashingDefinitions .null).2
        partOf each repeated
    exact ⟨before, culprit, after, split, refused⟩

end Resolve

end ProtocolBindings
