import ProtocolBindings.Proofs.Failure
import ProtocolBindings.Proofs.Traced
import ProtocolBindings.Reference

/-!
# Followed references

A link is followed to the known name in its reference, or to the whole reference if
that is not well-formed and references are not read strictly.
-/

namespace ProtocolBindings.Reference

open Schema (Link)

variable {known : Text → Bool} {strict : Bool} {owner : Text} {link : Link} {target : Text}

/-- A well-formed reference is followed to its name if that is known. -/
theorem follow_ok_iff_of_name {reference name : Text} (written : link.target = .text reference)
    (named : name? reference = some name) :
    (follow known strict owner link).outcome = .ok target ↔
      name = target ∧ known target = true := by
  cases found : known name with
  | true =>
      rw [follow, written]
      simp only [named, found, if_true, Traced.outcome_pure, Except.ok.injEq]
      constructor
      · rintro rfl
        exact ⟨rfl, found⟩
      · exact fun followed => followed.1
  | false =>
      rw [follow, written]
      simp only [named, found, Bool.false_eq_true, if_false, Processing.refuse,
        Traced.outcome_fail, reduceCtorEq, false_iff, not_and]
      rintro rfl
      simp [found]

/-- A reference that is not well-formed is its own target, unless it is refused. -/
theorem follow_ok_iff_of_malformed {reference : Text} (written : link.target = .text reference)
    (malformed : name? reference = none) :
    (follow known strict owner link).outcome = .ok target ↔
      strict = false ∧ reference = target := by
  rw [follow, written]
  cases strict with
  | true => simp [malformed, Processing.refuse]
  | false => simp [malformed, Traced.outcome_map_eq_ok_iff]

/-- Under strict reading every target is known. -/
theorem known_of_follow_strict (followed : (follow known true owner link).outcome = .ok target) :
    known target = true := by
  cases written : link.target with
  | text reference =>
      cases named : name? reference with
      | some name => exact ((follow_ok_iff_of_name written named).mp followed).2
      | none => cases ((follow_ok_iff_of_malformed written named).mp followed).1
  | null | bool _ | integer _ | number _ | array _ | object _ =>
      simp [follow, written, Processing.misused] at followed

/-- A link with a text for its target meets no failure but an expected one. -/
theorem follow_ends {place : Schema.Place} {reference : Text} :
    (follow known strict owner ⟨place, .text reference⟩).Ends (fun _ => True)
      (Failure.Expected strict) := by
  simp only [follow]
  split
  · split
    · exact Traced.Ends.pure trivial
    · exact Traced.Ends.fail trivial
  · split
    · rename_i read
      exact Traced.Ends.fail read
    · exact Traced.Ends.note_bind (Traced.Ends.pure trivial)

end ProtocolBindings.Reference
