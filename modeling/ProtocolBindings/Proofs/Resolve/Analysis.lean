import ProtocolBindings.Proofs.Resolve.Contribution

/-!
# Relational specification of the analysis

The model of a parsed schema consists of the contributions of the definitions that
are kept, in their order, and exists exactly when each of them has a contribution
and no two of their entities have one name.
-/

namespace ProtocolBindings.Resolve

open Model
open Schema (Definition Fragment)
open Reference (Follow)

/-- The names of the entities of a contribution. -/
def Contribution.entityNames (part : Contribution) : List Text :=
  part.entities.map Entity.name

/-- The names of the entities whose origins are recorded. -/
def Origins.names (origins : Origins) : List Text := origins.map Prod.fst

/-- Whether a definition is neither ignored nor reserved. -/
def isKept (config : Config) (definition : Definition) : Bool :=
  match (isSkipped config definition).outcome with
  | .ok skipped => !skipped
  | .error _ => false

/-- The definitions that are neither ignored nor reserved. -/
def kept (config : Config) (definitions : List Definition) : List Definition :=
  definitions.filter (isKept config)

/-- The model that contributions make up. -/
def assembled (version : Json) (parts : List Contribution) : Model where
  entities := parts.flatMap Contribution.entities
  requests := parts.flatMap Contribution.requests
  events := parts.flatMap Contribution.events
  version := version

/-! ## Origins -/

/-- Origins are recorded as long as no name repeats, and the first repetition is
refused in the name of the definition. -/
theorem recordOrigins_cases (definition : Definition) (origins : Origins)
    (entities : List Entity) (distinct : origins.names.Nodup) :
    (∃ recorded, recordOrigins definition origins entities = .ok recorded ∧
      recorded.names.Perm (origins.names ++ entities.map Entity.name) ∧
      recorded.names.Nodup) ∨
    ((∃ name origin previous, recordOrigins definition origins entities =
        .error (.resolution ⟨.duplicateEntity name origin previous,
          definition.name, definition.place.path⟩)) ∧
      ¬(origins.names ++ entities.map Entity.name).Nodup) := by
  induction entities generalizing origins with
  | nil => exact .inl ⟨origins, rfl, by simp, distinct⟩
  | cons entity entities ih =>
      cases found : origins.lookup entity.name with
      | some previous =>
          refine .inr ⟨⟨entity.name, originOf definition entity, previous, ?_⟩, ?_⟩
          · rw [recordOrigins, found]
          · obtain ⟨before, after, split, _⟩ := List.lookup_eq_some_iff.mp found
            have taken : entity.name ∈ origins.names := by simp [Origins.names, split]
            intro nodup
            exact (List.nodup_append.mp nodup).2.2 _ taken _ List.mem_cons_self rfl
      | none =>
          have fresh : entity.name ∉ origins.names := by
            intro taken
            obtain ⟨entry, member, same⟩ := List.mem_map.mp taken
            have differs := List.lookup_eq_none_iff.mp found entry member
            simp [same] at differs
          have moved : (Origins.names ((entity.name, originOf definition entity) :: origins) ++
              entities.map Entity.name).Perm
              (origins.names ++ (entity :: entities).map Entity.name) :=
            List.perm_middle.symm
          have step := ih ((entity.name, originOf definition entity) :: origins)
            (List.nodup_cons.mpr ⟨fresh, distinct⟩)
          rcases step with
            ⟨recorded, ended, same, nodup⟩ | ⟨⟨name, origin, previous, ended⟩, repeated⟩
          · refine .inl ⟨recorded, ?_, same.trans moved, nodup⟩
            rw [recordOrigins, found]
            exact ended
          · refine .inr ⟨⟨name, origin, previous, ?_⟩, ?_⟩
            · rw [recordOrigins, found]
              exact ended
            · rwa [← moved.nodup_iff]

section

variable {config : Config} {follow : Follow} {all rest : List Definition}
variable {definition : Definition} {origins : Origins} {parts : List Contribution}

/-! ## The loop over the definitions -/

private theorem names_nil : (Origins.names []).Nodup := List.nodup_nil

theorem contributions_cons_of_skipped
    (skipped : (isSkipped config definition).outcome = .ok true) :
    (contributions config follow all origins (definition :: rest)).outcome =
      (contributions config follow all origins rest).outcome := by
  rw [contributions, Traced.bind_of_ok _ skipped]
  rfl

theorem contributions_cons_of_kept
    (held : (isSkipped config definition).outcome = .ok false) :
    (contributions config follow all origins (definition :: rest)).outcome =
      (do
        let first ← contribution config follow all definition
        let recorded ← Traced.ofExcept (recordOrigins definition origins first.entities)
        let others ← contributions config follow all recorded rest
        return first :: others : Processing (List Contribution)).outcome := by
  rw [contributions, Traced.bind_of_ok _ held]
  rfl

theorem kept_cons_of_skipped
    (skipped : (isSkipped config definition).outcome = .ok true) :
    kept config (definition :: rest) = kept config rest := by
  simp [kept, isKept, skipped]

theorem kept_cons_of_kept (held : (isSkipped config definition).outcome = .ok false) :
    kept config (definition :: rest) = definition :: kept config rest := by
  simp [kept, isKept, held]

/-- What a definition contributes, if anything. -/
private def contributionOr (config : Config) (follow : Follow) (all : List Definition)
    (definition : Definition) : Contribution :=
  (contribution config follow all definition).valueOr {}

private theorem contributions_of_ok (distinct : origins.names.Nodup)
    (ended : (contributions config follow all origins rest).outcome = .ok parts) :
    (∀ definition ∈ rest, ∃ skipped, (isSkipped config definition).outcome = .ok skipped) ∧
    (∀ definition ∈ kept config rest, (contribution config follow all definition).outcome =
      .ok (contributionOr config follow all definition)) ∧
    parts = (kept config rest).map (contributionOr config follow all) ∧
    (origins.names ++ parts.flatMap Contribution.entityNames).Nodup := by
  -- The names recorded so far are distinct, and each definition adds its own to them.
  induction rest generalizing origins parts with
  | nil =>
      rw [contributions] at ended
      cases ended
      simpa [kept] using distinct
  | cons definition rest ih =>
      cases judged : (isSkipped config definition).outcome with
      | error failure =>
          rw [contributions, Traced.bind_of_error _ judged] at ended
          cases ended
      | ok skipped =>
          cases skipped with
          | true =>
              rw [contributions_cons_of_skipped judged] at ended
              rw [kept_cons_of_skipped judged]
              obtain ⟨decided, each, same, nodup⟩ := ih distinct ended
              refine ⟨?_, each, same, nodup⟩
              exact List.forall_mem_cons.mpr ⟨⟨true, judged⟩, decided⟩
          | false =>
              rw [contributions_cons_of_kept judged] at ended
              rw [kept_cons_of_kept judged]
              simp only [Traced.outcome_bind_eq_ok_iff, Traced.outcome_ofExcept] at ended
              obtain ⟨first, contributed, recorded, tracked, others, later, result⟩ := ended
              cases result
              have same : contributionOr config follow all definition = first :=
                Traced.valueOr_of_ok _ contributed
              rcases recordOrigins_cases definition origins first.entities distinct with
                ⟨_, stored, moved, nodup⟩ | ⟨⟨_, _, _, refused⟩, _⟩
              · rw [tracked] at stored
                cases stored
                obtain ⟨decided, each, sameOthers, rest⟩ := ih nodup later
                refine ⟨?_, ?_, ?_, ?_⟩
                · exact List.forall_mem_cons.mpr ⟨⟨false, judged⟩, decided⟩
                · intro other member
                  rcases List.mem_cons.mp member with rfl | member
                  · rw [same]
                    exact contributed
                  · exact each other member
                · rw [List.map_cons, same, sameOthers]
                · rw [List.flatMap_cons, ← List.append_assoc]
                  exact (moved.append_right _).nodup_iff.mp rest
              · rw [tracked] at refused
                cases refused

private theorem contributions_ok {contributionOf : Definition → Contribution}
    (distinct : origins.names.Nodup)
    (decided : ∀ definition ∈ rest, ∃ skipped,
      (isSkipped config definition).outcome = .ok skipped)
    (each : ∀ definition ∈ kept config rest,
      (contribution config follow all definition).outcome = .ok (contributionOf definition))
    (nodup : (origins.names ++
      (kept config rest).flatMap fun definition =>
        (contributionOf definition).entityNames).Nodup) :
    (contributions config follow all origins rest).outcome =
      .ok ((kept config rest).map contributionOf) := by
  induction rest generalizing origins with
  | nil =>
      rw [contributions]
      rfl
  | cons definition rest ih =>
      have decidedRest := fun other member =>
        decided other (List.mem_cons_of_mem definition member)
      obtain ⟨skipped, judged⟩ := decided definition List.mem_cons_self
      cases skipped with
      | true =>
          rw [kept_cons_of_skipped judged] at each nodup ⊢
          rw [contributions_cons_of_skipped judged]
          exact ih distinct decidedRest each nodup
      | false =>
          rw [kept_cons_of_kept judged] at each nodup ⊢
          rw [contributions_cons_of_kept judged]
          have first := each definition List.mem_cons_self
          have eachRest := fun other member =>
            each other (List.mem_cons_of_mem definition member)
          rw [List.flatMap_cons, ← List.append_assoc] at nodup
          rcases recordOrigins_cases definition origins (contributionOf definition).entities
            distinct with ⟨recorded, stored, moved, fresh⟩ | ⟨_, repeated⟩
          · have later := ih fresh decidedRest eachRest
              ((moved.append_right _).nodup_iff.mpr nodup)
            simp only [Traced.outcome_bind_eq_ok_iff, Traced.outcome_ofExcept]
            exact ⟨_, first, _, stored, _, later, rfl⟩
          · exact absurd (List.nodup_append.mp nodup).1 repeated

/-- Some definitions can be resolved one after another: it is decided which of them are
kept, each of these contributes something, and no two of their entities have one name. -/
structure Resolvable (config : Config) (all : List Definition)
    (contributionOf : Definition → Contribution) (rest : List Definition) : Prop where
  decided : ∀ definition ∈ rest, ∃ skipped,
    (isSkipped config definition).outcome = .ok skipped
  each : ∀ definition ∈ kept config rest,
    Contributed config (followIn config all) all definition (contributionOf definition)
  fresh : ((kept config rest).flatMap fun definition =>
    (contributionOf definition).entityNames).Nodup

theorem contributions_iff_resolvable :
    (contributions config (followIn config all) all [] rest).outcome = .ok parts ↔
      ∃ contributionOf, Resolvable config all contributionOf rest ∧
        parts = (kept config rest).map contributionOf := by
  constructor
  · intro ended
    obtain ⟨decided, each, rfl, nodup⟩ := contributions_of_ok names_nil ended
    refine ⟨_, ⟨decided, fun definition member =>
      contribution_ok_iff.mp (each definition member), ?_⟩, rfl⟩
    simpa [Origins.names, List.flatMap_map] using nodup
  · rintro ⟨contributionOf, resolvable, rfl⟩
    apply contributions_ok names_nil resolvable.decided
      (fun definition member => contribution_ok_iff.mpr (resolvable.each definition member))
    simpa [Origins.names] using resolvable.fresh

/-- There is a model if all definitions are resolvable, and it is put together from what
they contribute. -/
theorem analyze_iff_resolvable {version : Json} {model : Model} :
    (analyze config all version).outcome = .ok model ↔
      ∃ contributionOf, Resolvable config all contributionOf all ∧
        model = assembled version ((kept config all).map contributionOf) := by
  simp only [analyze, Traced.outcome_bind_eq_ok_iff]
  constructor
  · rintro ⟨parts, ended, _, _, result⟩
    obtain ⟨contributionOf, resolvable, rfl⟩ := contributions_iff_resolvable.mp ended
    cases result
    exact ⟨contributionOf, resolvable, rfl⟩
  · rintro ⟨contributionOf, resolvable, rfl⟩
    exact ⟨_, contributions_iff_resolvable.mpr ⟨contributionOf, resolvable, rfl⟩, (), rfl, rfl⟩

/-- A model is the assembly of what the kept definitions contribute, without a
repeated name. -/
theorem analyze_ok_iff {version : Json} {model : Model} :
    (analyze config all version).outcome = .ok model ↔
      (∀ definition ∈ all, ∃ skipped, (isSkipped config definition).outcome = .ok skipped) ∧
      ∃ contributionOf : Definition → Contribution,
        (∀ definition ∈ kept config all,
          Contributed config (followIn config all) all definition
            (contributionOf definition)) ∧
        ((kept config all).flatMap fun definition =>
          (contributionOf definition).entityNames).Nodup ∧
        model = assembled version ((kept config all).map contributionOf) := by
  rw [analyze_iff_resolvable]
  constructor
  · rintro ⟨contributionOf, ⟨decided, each, fresh⟩, same⟩
    exact ⟨decided, contributionOf, each, fresh, same⟩
  · rintro ⟨decided, contributionOf, each, fresh, same⟩
    exact ⟨contributionOf, ⟨decided, each, fresh⟩, same⟩

/-- What is in a model was contributed by one of the definitions. -/
theorem exists_contributed_of_mem {α : Type} {added : Contribution → List α} {value : α}
    {contributionOf : Definition → Contribution}
    (each : ∀ definition ∈ kept config all,
      Contributed config (followIn config all) all definition (contributionOf definition))
    (member : value ∈ ((kept config all).map contributionOf).flatMap added) :
    ∃ definition ∈ all, ∃ part,
      Contributed config (followIn config all) all definition part ∧ value ∈ added part := by
  obtain ⟨part, parts, own⟩ := List.mem_flatMap.mp member
  obtain ⟨definition, held, rfl⟩ := List.mem_map.mp parts
  exact ⟨definition, List.mem_of_mem_filter held, _, each definition held, own⟩

/-- No two entities of a model have one name. -/
theorem names_nodup_of_analyze {version : Json} {model : Model}
    (analyzed : (analyze config all version).outcome = .ok model) :
    (model.entities.map Entity.name).Nodup := by
  obtain ⟨_, contributionOf, _, distinct, rfl⟩ := analyze_ok_iff.mp analyzed
  simpa [assembled, List.flatMap_map, List.map_flatMap, Contribution.entityNames]
    using distinct

end

/-- The model of a document is that of its definitions. -/
theorem analyze_of_resolve {config : Config} {document version : Json}
    {definitions : List Definition} {model : Model}
    (read : (Schema.read config.openEnumMarker document).outcome = .ok definitions)
    (resolved : (resolve config document version).outcome = .ok model) :
    (analyze config definitions version).outcome = .ok model := by
  obtain ⟨_, readAgain, analyzed⟩ := Traced.outcome_bind_eq_ok_iff.mp resolved
  cases read.symm.trans readAgain
  exact analyzed

theorem names_nodup_of_resolve {config : Config} {document version : Json} {model : Model}
    (resolved : (resolve config document version).outcome = .ok model) :
    (model.entities.map Entity.name).Nodup := by
  obtain ⟨_, _, analyzed⟩ := Traced.outcome_bind_eq_ok_iff.mp resolved
  exact names_nodup_of_analyze analyzed

end ProtocolBindings.Resolve
