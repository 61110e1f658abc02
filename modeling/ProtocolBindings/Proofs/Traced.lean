import Mathlib.Data.List.Forall2
import ProtocolBindings.Processing
import ProtocolBindings.Proofs.Failure

/-!
# Endings and trails of traced computations

A traced computation ends with a value or an error.  `Ends` states what kinds of
values and errors are possible, and has one rule for each way of building a
computation.  The trail plays no part in it.  `Leaves` states what kind of entries the
trail has, by rules of the same form.
-/

namespace ProtocolBindings

namespace Traced

variable {ω ε α β : Type}

@[simp] theorem ofExcept_ok (value : α) :
    (ofExcept (.ok value) : Traced ω ε α) = pure value := rfl

/-- A sequence ends with a value exactly when both of its parts do. -/
theorem outcome_bind_eq_ok_iff {first : Traced ω ε α} {next : α → Traced ω ε β} {value : β} :
    (first >>= next).outcome = .ok value ↔
      ∃ middle, first.outcome = .ok middle ∧ (next middle).outcome = .ok value := by
  cases ended : first.outcome with
  | ok middle => simp [bind_of_ok next ended]
  | error error => simp [bind_of_error next ended]

/-- A sequence leaves the entries of its first part. -/
theorem mem_trail_bind {first : Traced ω ε α} {next : α → Traced ω ε β} {entry : ω}
    (member : entry ∈ first.trail) : entry ∈ (first >>= next).trail := by
  cases ended : first.outcome with
  | ok value =>
      rw [bind_of_ok next ended]
      exact List.mem_append_left _ member
  | error error =>
      rw [bind_of_error next ended]
      exact member

/-- A mapped computation ends with the image of a value. -/
theorem outcome_map_eq_ok_iff {function : α → β} {first : Traced ω ε α} {value : β} :
    (function <$> first).outcome = .ok value ↔
      ∃ middle, first.outcome = .ok middle ∧ function middle = value := by
  rw [← bind_pure_comp, outcome_bind_eq_ok_iff]
  simp

/-- A mapped computation ends with the errors of the computation. -/
theorem outcome_map_eq_error_iff {function : α → β} {first : Traced ω ε α} {error : ε} :
    (function <$> first).outcome = .error error ↔ first.outcome = .error error := by
  rw [← bind_pure_comp]
  cases ended : first.outcome with
  | ok value => simp [bind_of_ok _ ended]
  | error other => simp [bind_of_error _ ended]

/-- The value of a computation, or another one if it ends with an error. -/
def valueOr (otherwise : α) (run : Traced ω ε α) : α :=
  match run.outcome with
  | .ok value => value
  | .error _ => otherwise

theorem valueOr_of_ok {run : Traced ω ε α} {value : α} (otherwise : α)
    (ended : run.outcome = .ok value) : run.valueOr otherwise = value := by
  rw [valueOr, ended]

/-- The value of a computation that ends with one. -/
theorem outcome_eq_valueOr {run : Traced ω ε α} (otherwise : α)
    (ended : run.outcome.isOk = true) : run.outcome = .ok (run.valueOr otherwise) := by
  unfold valueOr
  cases outcome : run.outcome with
  | ok value => rfl
  | error error =>
      rw [outcome] at ended
      cases ended

/-- The error with which a computation ends, if it does. -/
def error? (run : Traced ω ε α) : Option ε :=
  match run.outcome with
  | .ok _ => none
  | .error error => some error

theorem error?_eq_some_iff {run : Traced ω ε α} {error : ε} :
    run.error? = some error ↔ run.outcome = .error error := by
  unfold error?
  cases run.outcome with
  | ok value => simp
  | error other => simp

/-- A computation of whose value something is known ends with a value. -/
theorem exists_ok_of_map {run : Traced ω ε α} {function : α → β} {known : β}
    (image : run.outcome.toOption.map function = some known) :
    ∃ value, run.outcome = .ok value ∧ function value = known := by
  cases ended : run.outcome with
  | ok value =>
      rw [ended] at image
      exact ⟨value, rfl, Option.some.inj image⟩
  | error error =>
      rw [ended] at image
      cases image

/-- A computation ends with a value of one kind or with an error of another. -/
def Ends (run : Traced ω ε α) (value : α → Prop) (error : ε → Prop) : Prop :=
  match run.outcome with
  | .ok result => value result
  | .error failure => error failure

namespace Ends

variable {run first : Traced ω ε α} {next : α → Traced ω ε β}
variable {value larger : α → Prop} {final : β → Prop} {error weaker : ε → Prop}

theorem iff_forall :
    run.Ends value error ↔
      (∀ result, run.outcome = .ok result → value result) ∧
        ∀ failure, run.outcome = .error failure → error failure := by
  unfold Ends
  cases run.outcome with
  | ok result => simp
  | error failure => simp

theorem of_ok (ends : run.Ends value error) {result : α}
    (ended : run.outcome = .ok result) : value result :=
  (iff_forall.mp ends).1 result ended

theorem of_error (ends : run.Ends value error) {failure : ε}
    (ended : run.outcome = .error failure) : error failure :=
  (iff_forall.mp ends).2 failure ended

/-- Without a possible error there is a value. -/
theorem exists_ok (ends : run.Ends value fun _ => False) :
    ∃ result, run.outcome = .ok result ∧ value result := by
  cases ended : run.outcome with
  | ok result => exact ⟨result, rfl, ends.of_ok ended⟩
  | error failure => exact (ends.of_error ended).elim

theorem mono (ends : run.Ends value error) (values : ∀ result, value result → larger result)
    (errors : ∀ failure, error failure → weaker failure) : run.Ends larger weaker := by
  rw [iff_forall] at ends ⊢
  obtain ⟨succeeds, fails⟩ := ends
  constructor
  · exact fun result ended => values result (succeeds result ended)
  · exact fun failure ended => errors failure (fails failure ended)

/-- The value of a computation is one with which it ends. -/
theorem self (ends : run.Ends value error) :
    run.Ends (fun result => run.outcome = .ok result ∧ value result) error := by
  rw [iff_forall] at ends ⊢
  exact ⟨fun result ended => ⟨ended, ends.1 result ended⟩, ends.2⟩

theorem pure {result : α} (holds : value result) :
    (Pure.pure result : Traced ω ε α).Ends value error := holds

theorem fail {failure : ε} (holds : error failure) :
    (Traced.fail failure : Traced ω ε α).Ends value error := holds

/-- An entry changes nothing about the ending. -/
theorem note_bind {entry : ω} {rest : Unit → Traced ω ε β} (ends : (rest ()).Ends final error) :
    (Traced.note entry >>= rest).Ends final error := by
  unfold Ends
  rw [bind_of_ok rest (outcome_note entry)]
  exact ends

theorem bind (ends : first.Ends value error)
    (rest : ∀ result, value result → (next result).Ends final error) :
    (first >>= next).Ends final error := by
  unfold Ends
  cases ended : first.outcome with
  | ok result =>
      rw [bind_of_ok next ended]
      exact rest result (ends.of_ok ended)
  | error failure =>
      rw [bind_of_error next ended]
      exact ends.of_error ended

theorem map {function : α → β} (ends : first.Ends (fun result => final (function result)) error) :
    (function <$> first).Ends final error := by
  rw [← bind_pure_comp]
  exact ends.bind fun _ holds => pure holds

theorem ofExcept {outcome : Except ε α}
    (values : ∀ result, outcome = .ok result → value result)
    (errors : ∀ failure, outcome = .error failure → error failure) :
    (Traced.ofExcept outcome : Traced ω ε α).Ends value error :=
  iff_forall.mpr ⟨values, errors⟩

end Ends

/-- A computation ends with a value of some kind. -/
abbrev Succeeds (run : Traced ω ε α) (value : α → Prop) : Prop :=
  run.Ends value fun _ => False

/-- A computation that always succeeds does so whatever errors are admitted. -/
theorem Succeeds.ends {run : Traced ω ε α} {value : α → Prop} {error : ε → Prop}
    (succeeds : run.Succeeds value) : run.Ends value error :=
  Ends.mono succeeds (fun _ holds => holds) fun _ never => never.elim

/-- If a computation ends with a value, the value is of some kind. -/
abbrev Yields (run : Traced ω ε α) (value : α → Prop) : Prop :=
  run.Ends value fun _ => True

namespace Yields

variable {run : Traced ω ε α} {value larger : α → Prop}

theorem mono (yields : run.Yields value) (values : ∀ result, value result → larger result) :
    run.Yields larger :=
  Ends.mono yields values fun _ _ => trivial

theorem fail (error : ε) : (Traced.fail error : Traced ω ε α).Yields value := trivial

theorem ofExcept {outcome : Except ε α} (values : ∀ result, outcome = .ok result → value result) :
    (Traced.ofExcept outcome : Traced ω ε α).Yields value :=
  Ends.ofExcept values fun _ _ => trivial

/-- Whatever value a computation ends with. -/
theorem any (run : Traced ω ε α) : run.Yields fun _ => True :=
  Ends.iff_forall.mpr ⟨fun _ _ => trivial, fun _ _ => trivial⟩

end Yields

/-- A computation leaves entries of one kind only. -/
structure Leaves (run : Traced ω ε α) (kind : ω → Prop) : Prop where
  entries : ∀ entry ∈ run.trail, kind entry

namespace Leaves

variable {first : Traced ω ε α} {next : α → Traced ω ε β} {kind : ω → Prop}

theorem ofExcept (outcome : Except ε α) :
    (Traced.ofExcept outcome : Traced ω ε α).Leaves kind := ⟨nofun⟩

theorem pure (value : α) : (Pure.pure value : Traced ω ε α).Leaves kind := ⟨nofun⟩

theorem fail (error : ε) : (Traced.fail error : Traced ω ε α).Leaves kind := ⟨nofun⟩

theorem note {entry : ω} (holds : kind entry) :
    (Traced.note entry : Traced ω ε Unit).Leaves kind :=
  ⟨List.forall_mem_singleton.mpr holds⟩

theorem bind (leaves : first.Leaves kind) (rest : ∀ value, (next value).Leaves kind) :
    (first >>= next).Leaves kind := by
  cases ended : first.outcome with
  | ok value =>
      rw [bind_of_ok next ended]
      exact ⟨List.forall_mem_append.mpr ⟨leaves.entries, (rest value).entries⟩⟩
  | error error =>
      rw [bind_of_error next ended]
      exact ⟨leaves.entries⟩

theorem map {function : α → β} (leaves : first.Leaves kind) :
    (function <$> first).Leaves kind := by
  rw [← bind_pure_comp]
  exact leaves.bind fun _ => pure _

end Leaves

/-- A computation ends with a value that its entries concern, or with an error of some kind. -/
structure Reports (run : Traced ω ε α) (concerns : α → ω → Prop) (error : ε → Prop) : Prop where
  entries : ∀ value, run.outcome = .ok value → ∀ entry ∈ run.trail, concerns value entry
  errors : ∀ failure, run.outcome = .error failure → error failure

namespace Reports

variable {first : Traced ω ε α} {next : α → Traced ω ε β} {error : ε → Prop}
variable {own : α → ω → Prop} {whole : β → ω → Prop}

theorem pure (value : α) : (Pure.pure value : Traced ω ε α).Reports own error :=
  ⟨fun _ _ => nofun, nofun⟩

theorem fail {failure : ε} (holds : error failure) :
    (Traced.fail failure : Traced ω ε α).Reports own error := by
  refine ⟨nofun, ?_⟩
  rintro other ⟨⟩
  exact holds

theorem mono {run : Traced ω ε α} {larger : α → ω → Prop} {weaker : ε → Prop}
    (reports : run.Reports own error)
    (kept : ∀ value entry, own value entry → larger value entry)
    (errors : ∀ failure, error failure → weaker failure) : run.Reports larger weaker :=
  ⟨fun value ended entry member => kept value entry (reports.entries value ended entry member),
    fun failure ended => errors failure (reports.errors failure ended)⟩

/-- The entries of both parts of a sequence concern its value. -/
theorem bind (reports : first.Reports own error)
    (rest : ∀ value, first.outcome = .ok value → (next value).Reports whole error)
    (kept : ∀ value result, (next value).outcome = .ok result → ∀ entry, own value entry →
      whole result entry) :
    (first >>= next).Reports whole error := by
  cases ended : first.outcome with
  | ok value =>
      rw [bind_of_ok next ended]
      have later := rest value ended
      constructor
      · intro result final entry member
        rcases List.mem_append.mp member with first | second
        · exact kept value result final entry (reports.entries value ended entry first)
        · exact later.entries result final entry second
      · exact later.errors
  | error failure =>
      rw [bind_of_error next ended]
      refine ⟨nofun, ?_⟩
      rintro other ⟨⟩
      exact reports.errors failure ended

/-- A first part that leaves nothing. -/
theorem ofExcept_bind {outcome : Except ε α}
    (errors : ∀ failure, outcome = .error failure → error failure)
    (rest : ∀ value, outcome = .ok value → (next value).Reports whole error) :
    (Traced.ofExcept outcome >>= next).Reports whole error := by
  have silent : (Traced.ofExcept outcome : Traced ω ε α).Reports (fun _ _ => False) error :=
    ⟨fun _ _ => nofun, errors⟩
  exact silent.bind rest fun _ _ _ _ => False.elim

/-- A last part that leaves nothing. -/
theorem bind_pure {function : α → β} (reports : first.Reports own error)
    (kept : ∀ value entry, own value entry → whole (function value) entry) :
    (first >>= fun value => Pure.pure (function value)).Reports whole error := by
  refine bind reports (fun value _ => pure _) ?_
  rintro value result ⟨⟩
  exact kept value

theorem map {function : α → β} (reports : first.Reports own error)
    (kept : ∀ value entry, own value entry → whole (function value) entry) :
    (function <$> first).Reports whole error := by
  rw [← bind_pure_comp]
  exact bind_pure reports kept

end Reports

/-- If a computation ends with a value, its entries are those of a set and no others. -/
def LeavesExactly (run : Traced ω ε α) (entries : ω → Prop) : Prop :=
  ∀ value, run.outcome = .ok value → ∀ entry, entry ∈ run.trail ↔ entries entry

namespace LeavesExactly

variable {run first : Traced ω ε α} {next : α → Traced ω ε β} {entries before after : ω → Prop}

theorem congr (leaves : run.LeavesExactly entries) (same : ∀ entry, entries entry ↔ after entry) :
    run.LeavesExactly after :=
  fun value ended entry => (leaves value ended entry).trans (same entry)

theorem ofExcept (outcome : Except ε α) :
    (Traced.ofExcept outcome : Traced ω ε α).LeavesExactly fun _ => False :=
  fun _ _ _ => iff_of_false List.not_mem_nil id

theorem pure (value : α) :
    (Pure.pure value : Traced ω ε α).LeavesExactly fun _ => False :=
  ofExcept (.ok value)

/-- A computation that ends with an error leaves what it will. -/
theorem fail (entries : ω → Prop) (error : ε) :
    (Traced.fail error : Traced ω ε α).LeavesExactly entries := nofun

theorem note (entry : ω) : (Traced.note entry : Traced ω ε Unit).LeavesExactly (· = entry) :=
  fun _ _ _ => List.mem_singleton

/-- A sequence leaves the entries of both of its parts. -/
theorem bind (leaves : first.LeavesExactly before)
    (rest : ∀ value, (next value).LeavesExactly after) :
    (first >>= next).LeavesExactly fun entry => before entry ∨ after entry := by
  intro result ended entry
  obtain ⟨value, own, later⟩ := outcome_bind_eq_ok_iff.mp ended
  rw [bind_of_ok next own, List.mem_append]
  exact or_congr (leaves value own entry) (rest value result later entry)

/-- What follows may leave nothing. -/
theorem bind_quiet (leaves : first.LeavesExactly before)
    (rest : ∀ value, (next value).LeavesExactly fun _ => False) :
    (first >>= next).LeavesExactly before :=
  (leaves.bind rest).congr fun _ => or_iff_left id

end LeavesExactly

/-- A computation on a list that goes through the parts one after another. -/
structure Gathers {γ : Type} (one : α → Traced ω ε β) (all : List α → Traced ω ε γ) : Prop where
  nil : ∃ value, all [] = Pure.pure value
  cons : ∀ part parts, ∃ join : β → γ → γ, all (part :: parts) = do
    let first ← one part
    let others ← all parts
    return join first others

/-- All parts together leave what each of them leaves. -/
theorem Gathers.leavesExactly {γ : Type} {one : α → Traced ω ε β}
    {all : List α → Traced ω ε γ} (gathers : Gathers one all) {entries : α → ω → Prop}
    {parts : List α} (each : ∀ part ∈ parts, (one part).LeavesExactly (entries part)) :
    (all parts).LeavesExactly fun entry => ∃ part ∈ parts, entries part entry := by
  induction parts with
  | nil =>
      obtain ⟨value, nothing⟩ := gathers.nil
      rw [nothing]
      exact (LeavesExactly.pure value).congr fun _ => by simp
  | cons part parts ih =>
      obtain ⟨join, both⟩ := gathers.cons part parts
      obtain ⟨own, others⟩ := List.forall_mem_cons.mp each
      rw [both]
      refine (own.bind fun first => (ih others).bind_quiet fun _ => .pure _).congr fun entry => ?_
      simp only [List.mem_cons, exists_eq_or_imp]

/-- A computation on a list that collects the values of the parts. -/
structure Collects (one : α → Traced ω ε β) (all : List α → Traced ω ε (List β)) : Prop where
  nil : all [] = Pure.pure []
  cons : ∀ part parts, all (part :: parts) = do
    let first ← one part
    let others ← all parts
    return first :: others

theorem Collects.gathers {one : α → Traced ω ε β} {all : List α → Traced ω ε (List β)}
    (collects : Collects one all) : Gathers one all where
  nil := ⟨[], collects.nil⟩
  cons part parts := ⟨List.cons, collects.cons part parts⟩

/-- The collected values are of the kind of each of them. -/
theorem Collects.ends {one : α → Traced ω ε β} {all : List α → Traced ω ε (List β)}
    (collects : Collects one all) {kind : β → Prop} {error : ε → Prop} {parts : List α}
    (each : ∀ part ∈ parts, (one part).Ends kind error) :
    (all parts).Ends (fun values => ∀ value ∈ values, kind value) error := by
  induction parts with
  | nil =>
      rw [collects.nil]
      exact nofun
  | cons part parts ih =>
      obtain ⟨own, later⟩ := List.forall_mem_cons.mp each
      rw [collects.cons]
      apply Ends.bind own
      intro first holds
      apply Ends.bind (ih later)
      exact fun others rest => List.forall_mem_cons.mpr ⟨holds, rest⟩

/-- Collecting ends with one value for each part, if each of them has one. -/
theorem Collects.ok_iff {one : α → Traced ω ε β} {all : List α → Traced ω ε (List β)}
    (collects : Collects one all) {parts : List α} {values : List β} :
    (all parts).outcome = .ok values ↔
      List.Forall₂ (fun part value => (one part).outcome = .ok value) parts values := by
  induction parts generalizing values with
  | nil =>
      rw [collects.nil, outcome_pure, Except.ok.injEq, List.forall₂_nil_left_iff]
      exact eq_comm
  | cons part parts ih =>
      simp only [collects.cons, outcome_bind_eq_ok_iff, outcome_pure, Except.ok.injEq, ih,
        List.forall₂_cons_left_iff]
      constructor
      · rintro ⟨first, own, others, later, rfl⟩
        exact ⟨first, others, own, later, rfl⟩
      · rintro ⟨first, others, own, later, rfl⟩
        exact ⟨first, own, others, later, rfl⟩

/-- Two outcomes with related values or with the same error. -/
inductive EndsAlike (relation : α → β → Prop) : Except ε α → Except ε β → Prop where
  | ok {left : α} {right : β} (related : relation left right) :
      EndsAlike relation (.ok left) (.ok right)
  | error (failure : ε) : EndsAlike relation (.error failure) (.error failure)

theorem EndsAlike.bind {γ δ : Type} {relation : α → β → Prop} {final : γ → δ → Prop}
    {left : Except ε α} {right : Except ε β} {leftNext : α → Except ε γ}
    {rightNext : β → Except ε δ} (first : EndsAlike relation left right)
    (next : ∀ leftValue rightValue, relation leftValue rightValue →
      EndsAlike final (leftNext leftValue) (rightNext rightValue)) :
    EndsAlike final (left >>= leftNext) (right >>= rightNext) := by
  cases first with
  | error failure => exact .error failure
  | ok related => exact next _ _ related

theorem EndsAlike.map {γ δ : Type} {relation : α → β → Prop} {final : γ → δ → Prop}
    {left : Except ε α} {right : Except ε β} {leftFunction : α → γ} {rightFunction : β → δ}
    (alike : EndsAlike relation left right)
    (images : ∀ leftValue rightValue, relation leftValue rightValue →
      final (leftFunction leftValue) (rightFunction rightValue)) :
    EndsAlike final (left.map leftFunction) (right.map rightFunction) := by
  cases alike with
  | error failure => exact .error failure
  | ok related => exact .ok (images _ _ related)

/-- Two computations that leave the same trail and end alike. -/
structure Related (relation : α → β → Prop) (left : Traced ω ε α) (right : Traced ω ε β) :
    Prop where
  trail : left.trail = right.trail
  outcome : EndsAlike relation left.outcome right.outcome

namespace Related

variable {γ δ : Type} {relation : α → β → Prop} {final : γ → δ → Prop}
variable {left : Traced ω ε α} {right : Traced ω ε β}

theorem pure {leftValue : α} {rightValue : β} (related : relation leftValue rightValue) :
    Related relation (Pure.pure leftValue : Traced ω ε α) (Pure.pure rightValue) :=
  ⟨rfl, .ok related⟩

theorem fail (failure : ε) :
    Related relation (Traced.fail failure : Traced ω ε α) (Traced.fail failure) :=
  ⟨rfl, .error failure⟩

theorem ofExcept {leftOutcome : Except ε α} {rightOutcome : Except ε β}
    (alike : EndsAlike relation leftOutcome rightOutcome) :
    Related relation (Traced.ofExcept leftOutcome : Traced ω ε α)
      (Traced.ofExcept rightOutcome) :=
  ⟨rfl, alike⟩

theorem bind {leftNext : α → Traced ω ε γ} {rightNext : β → Traced ω ε δ}
    (first : Related relation left right)
    (next : ∀ leftValue rightValue, relation leftValue rightValue →
      Related final (leftNext leftValue) (rightNext rightValue)) :
    Related final (left >>= leftNext) (right >>= rightNext) := by
  obtain ⟨leftTrail, leftOutcome⟩ := left
  obtain ⟨rightTrail, rightOutcome⟩ := right
  obtain ⟨sameTrail, alike⟩ := first
  cases sameTrail
  cases alike with
  | error failure => exact ⟨rfl, .error failure⟩
  | @ok leftValue rightValue related =>
      obtain ⟨trail, outcome⟩ := next leftValue rightValue related
      rw [bind_of_ok leftNext rfl, bind_of_ok rightNext rfl]
      exact ⟨congrArg (leftTrail ++ ·) trail, outcome⟩

/-- Two computations that start with the same one. -/
theorem after {run : Traced ω ε α} {leftNext : α → Traced ω ε γ} {rightNext : α → Traced ω ε δ}
    (next : ∀ value, run.outcome = .ok value → Related final (leftNext value) (rightNext value)) :
    Related final (run >>= leftNext) (run >>= rightNext) := by
  have known : Related (fun first second => first = second ∧ run.outcome = .ok first) run run := by
    refine ⟨rfl, ?_⟩
    cases ended : run.outcome with
    | ok value => exact .ok ⟨rfl, rfl⟩
    | error failure => exact .error failure
  refine known.bind fun first second both => ?_
  obtain ⟨rfl, ended⟩ := both
  exact next first ended

theorem exists_ok (related : Related relation left right) {value : α}
    (ended : left.outcome = .ok value) :
    ∃ other, right.outcome = .ok other ∧ relation value other := by
  have alike := related.outcome
  rw [ended] at alike
  generalize right.outcome = outcome at alike
  cases alike with
  | ok holds => exact ⟨_, rfl, holds⟩

end Related

end Traced

namespace Processing

variable {α : Type} {step : Except Misuse α}

/-- A checked step succeeds with a value of the step. -/
theorem checked_succeeds {kind : α → Prop} (succeeded : ∃ value, step = .ok value ∧ kind value) :
    (checked step).Succeeds kind := by
  obtain ⟨value, rfl, holds⟩ := succeeded
  exact holds

/-- A checked step ends with a value of the step. -/
theorem checked_yields {kind : α → Prop} (values : ∀ value, step = .ok value → kind value) :
    (checked step).Yields kind :=
  .ofExcept fun value ended => values value (mapError_eq_ok_iff.mp ended)

/-- A step that succeeds need not be checked. -/
@[simp] theorem checked_ok (value : α) : checked (.ok value) = pure value := rfl

end Processing

end ProtocolBindings
