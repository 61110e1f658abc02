import ProtocolBindings.Proofs.Resolve.Lockstep
import ProtocolBindings.Proofs.Schema.Notices

/-!
# Strict and lenient reading of references

Strict and lenient reading differ at one point only: a reference that is not well-formed
is refused or noted.  So the two runs are the same up to the first such reference, and the
notices of the lenient one tell whether there is any.
-/

namespace ProtocolBindings

/-- The configuration under which references are read strictly, or leniently. -/
def Config.reading (config : Config) (strict : Bool) : Config :=
  { config with strictReferences := .bool strict }

namespace Resolve

open Schema (Definition Link)
open Notice (SparesReferences)
open Traced (Leaves)
open Reference (Follow follow)

/-- A strict and a lenient run either are the same, without a notice of a reference that
is not well-formed, or part at such a reference, where the strict one fails. -/
inductive AgreeOrPart (α : Type) (strict lenient : Processing α) : Prop where
  | agree (same : strict = lenient) (spares : lenient.Leaves SparesReferences)
  | part {reference path : Text}
      (noted : Notice.malformedReference reference path ∈ lenient.trail)
      (failed : ∀ value, strict.outcome ≠ .ok value)

namespace AgreeOrPart

variable {α β : Type} {strict lenient : Processing α}

theorem silent (outcome : Except Failure α) :
    AgreeOrPart α (.ofExcept outcome) (.ofExcept outcome) :=
  .agree rfl (Leaves.ofExcept outcome)

theorem bind {strictNext lenientNext : α → Processing β}
    (runs : AgreeOrPart α strict lenient)
    (next : ∀ value, AgreeOrPart β (strictNext value) (lenientNext value)) :
    AgreeOrPart β (strict >>= strictNext) (lenient >>= lenientNext) := by
  -- Once the runs have parted, the strict one goes no further, and the notice stays.
  cases runs with
  | agree same spares =>
      subst same
      cases ended : strict.outcome with
      | error failure =>
          rw [Traced.bind_of_error strictNext ended, Traced.bind_of_error lenientNext ended]
          exact .agree rfl ⟨spares.entries⟩
      | ok value =>
          rw [Traced.bind_of_ok strictNext ended, Traced.bind_of_ok lenientNext ended]
          cases next value with
          | agree sameNext sparesNext =>
              rw [sameNext]
              exact .agree rfl
                ⟨List.forall_mem_append.mpr ⟨spares.entries, sparesNext.entries⟩⟩
          | part noted failed => exact .part (List.mem_append_right _ noted) failed
  | part noted failed =>
      refine .part (Traced.mem_trail_bind noted) ?_
      intro value ended
      obtain ⟨middle, succeeded, _⟩ := Traced.outcome_bind_eq_ok_iff.mp ended
      exact failed middle succeeded

/-- The strict run succeeds exactly when the lenient one does so without finding a
reference that is not well-formed. -/
theorem ok_iff (runs : AgreeOrPart α strict lenient) (value : α) :
    strict.outcome = .ok value ↔
      lenient.outcome = .ok value ∧
        ∀ reference path, Notice.malformedReference reference path ∉ lenient.trail := by
  cases runs with
  | agree same spares =>
      rw [same]
      constructor
      · intro ended
        exact ⟨ended, fun reference path noted =>
          spares.entries _ noted reference path rfl⟩
      · exact And.left
  | part noted failed =>
      constructor
      · intro ended
        exact absurd ended (failed value)
      · rintro ⟨_, silent⟩
        exact absurd noted (silent _ _)

end AgreeOrPart

/-- Following a link strictly and leniently. -/
theorem follow_agreeOrPart (known : Text → Bool) (owner : Text) (link : Link) :
    AgreeOrPart Text (follow known true owner link) (follow known false owner link) := by
  unfold follow
  cases link.target with
  | text reference =>
      dsimp only
      cases Reference.name? reference with
      | some name =>
          dsimp only
          split
          · exact .silent (.ok name)
          · exact .silent (.error _)
      | none => exact .part List.mem_cons_self nofun
  | _ => exact .silent (.error _)

/-- Strict and lenient resolution are in lockstep, whatever definition is resolved. -/
theorem lockstep_strict_lenient (known : Text → Bool) :
    Lockstep (fun _ => True) (follow known true) (follow known false) AgreeOrPart where
  unnamed := fun _ _ => trivial
  follow := fun _ link => follow_agreeOrPart known _ link
  step := fun _ _ outcome _ => .silent outcome
  bind := AgreeOrPart.bind

section

variable (config : Config) (strict : Bool)

/-- How references are read is no concern of what uses the ways to follow links. -/
theorem contributions_reading (follow : Follow) (definitions : List Definition)
    (origins : Origins) (rest : List Definition) :
    contributions (config.reading strict) follow definitions origins rest =
      contributions config follow definitions origins rest := by
  induction rest generalizing origins with
  | nil => rw [contributions, contributions]
  | cons definition rest ih =>
      rw [contributions, contributions]
      simp only [ih]
      rfl

theorem analyze_agreeOrPart (definitions : List Definition) (version : Json) :
    AgreeOrPart Model (analyze (config.reading true) definitions version)
      (analyze (config.reading false) definitions version) := by
  rw [analyze, analyze, contributions_reading, contributions_reading]
  apply AgreeOrPart.bind ((lockstep_strict_lenient _).contributions config definitions
    (fun _ => trivial) [] definitions)
  intro parts
  refine .agree rfl (Leaves.bind (Leaves.note nofun) ?_)
  exact fun _ => Leaves.pure _

end

/-- Under strict reading a document has the same model as under lenient reading, and has
one exactly when the latter finds no reference that is not well-formed. -/
theorem strict_iff_lenient_of_resolve (config : Config) (document version : Json)
    (model : Model) :
    (resolve (config.reading true) document version).outcome = .ok model ↔
      (resolve (config.reading false) document version).outcome = .ok model ∧
        ∀ reference path, Notice.malformedReference reference path ∉
          (resolve (config.reading false) document version).trail := by
  have runs : AgreeOrPart Model (resolve (config.reading true) document version)
      (resolve (config.reading false) document version) := by
    rw [resolve, resolve]
    apply AgreeOrPart.bind (.agree rfl (Schema.read_leaves _ document))
    exact fun definitions => analyze_agreeOrPart config definitions version
  exact runs.ok_iff model

end Resolve

end ProtocolBindings
