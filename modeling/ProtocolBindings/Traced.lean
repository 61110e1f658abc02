/-!
# Traced computations

A traced computation ends with a value or an error and leaves a trail of entries
in the order in which they arose.  An error ends the computation but keeps the
trail left before it.
-/

namespace ProtocolBindings

/-- An outcome, with the trail left on the way to it. -/
structure Traced (ω ε α : Type) where
  trail : List ω
  outcome : Except ε α
deriving Repr

namespace Traced

variable {ω ε α β : Type}

@[ext] theorem ext {left right : Traced ω ε α} (trail : left.trail = right.trail)
    (outcome : left.outcome = right.outcome) : left = right := by
  cases left
  cases right
  simp_all

/-- Run a second computation on the value of a first one. -/
protected def bind (first : Traced ω ε α) (next : α → Traced ω ε β) : Traced ω ε β :=
  match first.outcome with
  | .ok value => ⟨first.trail ++ (next value).trail, (next value).outcome⟩
  | .error error => ⟨first.trail, .error error⟩

instance : Monad (Traced ω ε) where
  pure value := ⟨[], .ok value⟩
  bind := Traced.bind

/-- End with an error. -/
def fail (error : ε) : Traced ω ε α := ⟨[], .error error⟩

/-- Leave one entry. -/
def note (entry : ω) : Traced ω ε Unit := ⟨[entry], .ok ()⟩

/-- A computation that leaves no trail. -/
def ofExcept (outcome : Except ε α) : Traced ω ε α := ⟨[], outcome⟩

@[simp] theorem trail_pure (value : α) :
    (pure value : Traced ω ε α).trail = [] := rfl

@[simp] theorem outcome_pure (value : α) :
    (pure value : Traced ω ε α).outcome = .ok value := rfl

@[simp] theorem trail_fail (error : ε) : (fail error : Traced ω ε α).trail = [] := rfl

@[simp] theorem outcome_fail (error : ε) :
    (fail error : Traced ω ε α).outcome = .error error := rfl

@[simp] theorem trail_note (entry : ω) :
    (note entry : Traced ω ε Unit).trail = [entry] := rfl

@[simp] theorem outcome_note (entry : ω) :
    (note entry : Traced ω ε Unit).outcome = .ok () := rfl

@[simp] theorem trail_ofExcept (outcome : Except ε α) :
    (ofExcept outcome : Traced ω ε α).trail = [] := rfl

@[simp] theorem outcome_ofExcept (outcome : Except ε α) :
    (ofExcept outcome : Traced ω ε α).outcome = outcome := rfl

/-- A computation that ends with a value hands it on and keeps both trails. -/
theorem bind_of_ok {first : Traced ω ε α} {value : α} (next : α → Traced ω ε β)
    (ended : first.outcome = .ok value) :
    first >>= next = ⟨first.trail ++ (next value).trail, (next value).outcome⟩ := by
  show Traced.bind first next = _
  simp [Traced.bind, ended]

/-- A computation that ends with an error skips what follows. -/
theorem bind_of_error {first : Traced ω ε α} {error : ε} (next : α → Traced ω ε β)
    (ended : first.outcome = .error error) :
    first >>= next = ⟨first.trail, .error error⟩ := by
  show Traced.bind first next = _
  simp [Traced.bind, ended]

instance : LawfulMonad (Traced ω ε) := LawfulMonad.mk' (Traced ω ε)
  (by
    intro α first
    show Traced.bind first _ = first
    rcases first with ⟨trail, _ | value⟩ <;> simp [Traced.bind])
  (by
    intro α β value next
    show Traced.bind ⟨[], .ok value⟩ next = next value
    simp [Traced.bind])
  (by
    intro α β γ first next last
    show Traced.bind (Traced.bind first next) last =
      Traced.bind first fun value => Traced.bind (next value) last
    rcases first with ⟨trail, _ | value⟩
    · simp [Traced.bind]
    · simp only [Traced.bind]
      rcases (next value).outcome with _ | second <;> simp [List.append_assoc])

end Traced

end ProtocolBindings
