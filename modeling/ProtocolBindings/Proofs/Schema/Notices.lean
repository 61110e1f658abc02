import ProtocolBindings.Proofs.Json
import ProtocolBindings.Proofs.Traced
import ProtocolBindings.Schema.Reader

/-!
# Notices of reading

Reading follows no reference, so that it has nothing to say about references that are not
well-formed, whatever the document is.
-/

namespace ProtocolBindings

/-- A notice of anything but a reference that is not well-formed. -/
def Notice.SparesReferences (notice : Notice) : Prop :=
  ∀ reference path, notice ≠ .malformedReference reference path

namespace Schema

open Notice (SparesReferences)
open Traced (Leaves)

variable {marker : Json}

/-! ## Fragments -/

theorem readValues_leaves (path : Text) (descriptions : Json) (position : Nat)
    (seen : List Text) (values : List Json) :
    (readValues path descriptions position seen values).Leaves SparesReferences := by
  induction values generalizing position seen with
  | nil => exact Leaves.pure []
  | cons value values ih =>
      rw [readValues]
      split
      · apply Leaves.bind (Leaves.note nofun)
        exact fun _ => ih _ _
      · apply Leaves.bind (Leaves.ofExcept _)
        intro description
        apply Leaves.bind (ih _ _)
        exact fun _ => Leaves.pure _

theorem readEnumeration_leaves (members : List (Text × Json)) (values : Json) (path : Text)
    (isOpen : Bool) :
    (readEnumeration members values path isOpen).Leaves SparesReferences := by
  rw [readEnumeration]
  apply Leaves.bind (Leaves.ofExcept _)
  intro items
  apply Leaves.bind (readValues_leaves _ _ _ _ _)
  exact fun _ => Leaves.pure _

section

variable {members : List (Text × Json)}
variable (reads : ∀ member ∈ members, ∀ path,
  (readFragment marker path member.2).Leaves SparesReferences)

include reads

theorem readAt_leaves (path key : Text) :
    (readAt marker path key members).Leaves SparesReferences := by
  rw [readAt_eq]
  split
  · next inner found => exact (reads _ (Json.mem_of_lookup found) path).map
  · exact Leaves.pure none

theorem readProperties_leaves (path : Text) (required : Json) :
    (readProperties marker path required members).Leaves SparesReferences := by
  induction members with
  | nil =>
      rw [readProperties]
      exact Leaves.pure []
  | cons entry entries ih =>
      obtain ⟨first, later⟩ := List.forall_mem_cons.mp reads
      rw [readProperties]
      apply Leaves.bind (first _)
      intro fragment
      apply Leaves.bind (Leaves.ofExcept _)
      intro isRequired
      apply Leaves.bind (ih later)
      exact fun _ => Leaves.pure _

end

/-- What reading a value leaves, as a fragment and as a mapping of properties. -/
structure ReadQuietly (marker value : Json) : Prop where
  fragment : ∀ path, (readFragment marker path value).Leaves SparesReferences
  mapping : ∀ path required, (readMapping marker path required value).Leaves SparesReferences

section

variable {members : List (Text × Json)}
variable (reads : ∀ member ∈ members, ReadQuietly marker member.2)

include reads

theorem readDeclared_leaves (path : Text) (required : Json) :
    (readDeclared marker path required members).Leaves SparesReferences := by
  rw [readDeclared_eq]
  split
  · next mapping found => exact (reads _ (Json.mem_of_lookup found)).mapping path required
  · exact Leaves.pure []

theorem readObject_leaves (path : Text) :
    (readObject marker path members).Leaves SparesReferences := by
  rw [readObject]
  apply Leaves.bind (readDeclared_leaves reads _ _)
  intro properties
  apply Leaves.bind (readAt_leaves (fun member inside => (reads member inside).fragment) _ _)
  exact fun _ => Leaves.pure _

end

/-- Reading a value leaves no notice of a reference. -/
theorem readQuietly (marker value : Json) : ReadQuietly marker value := by
  induction value using Json.induct with
  | other value scalar =>
      constructor
      · intro path
        cases value with
        | object members => cases scalar
        | _ =>
            rw [readFragment]
            · exact Leaves.fail _
            · exact nofun
      · intro path required
        cases value with
        | object members => cases scalar
        | _ =>
            rw [readMapping]
            · split
              · exact Leaves.fail _
              · exact Leaves.pure []
            · exact nofun
  | object members reads =>
      have fragments := fun member inside => (reads member inside).fragment
      constructor
      · intro path
        rw [readFragment]
        apply Leaves.bind (Leaves.ofExcept _)
        intro form
        cases form with
        | reference target => exact Leaves.pure _
        | typeList types => exact Leaves.pure _
        | array =>
            apply Leaves.bind (readAt_leaves fragments _ _)
            exact fun _ => Leaves.pure _
        | object =>
            apply Leaves.bind (readDeclared_leaves reads _ _)
            intro properties
            apply Leaves.bind (readAt_leaves fragments _ _)
            exact fun _ => Leaves.pure _
        | enumeration values isOpen =>
            apply Leaves.bind (readEnumeration_leaves _ _ _ _)
            exact fun _ => Leaves.pure _
        | primitive typeName => exact Leaves.pure _
      · intro path required
        rw [readMapping]
        exact readProperties_leaves fragments path required

/-! ## Definitions -/

theorem readPart_leaves (path : Text) (member : Json) :
    (readPart marker path member).Leaves SparesReferences := by
  unfold readPart
  apply Leaves.bind (Leaves.ofExcept _)
  intro refers
  split
  · split
    · exact Leaves.pure _
    · exact Leaves.fail _
  · apply Leaves.bind (Leaves.ofExcept _)
    intro members
    apply Leaves.bind (readObject_leaves (fun member _ => readQuietly marker member.2) path)
    exact fun _ => Leaves.pure _

theorem readParts_leaves (path : Text) (position : Nat) (members : List Json) :
    (readParts marker path position members).Leaves SparesReferences := by
  induction members generalizing position with
  | nil => exact Leaves.pure []
  | cons member members ih =>
      rw [readParts]
      apply Leaves.bind (readPart_leaves _ _)
      intro part
      apply Leaves.bind (ih _)
      exact fun _ => Leaves.pure _

theorem readComposition_leaves (name path : Text) (members : List (Text × Json))
    (composed : Json) :
    (readComposition marker name path members composed).Leaves SparesReferences := by
  rw [readComposition]
  apply Leaves.bind (Leaves.ofExcept _)
  intro listed
  apply Leaves.bind (readParts_leaves _ _ _)
  intro parts
  dsimp only
  split
  · exact Leaves.pure _
  · exact Leaves.pure _
  · exact Leaves.fail _

theorem readBody_leaves (name path : Text) (members : List (Text × Json)) :
    (readBody marker name path members).Leaves SparesReferences := by
  rw [readBody]
  split
  · exact readComposition_leaves _ _ _ _
  · split
    · apply Leaves.bind (readEnumeration_leaves _ _ _ _)
      exact fun _ => Leaves.pure _
    · apply Leaves.bind (Leaves.ofExcept _)
      intro marked
      split
      · apply Leaves.bind (readEnumeration_leaves _ _ _ _)
        exact fun _ => Leaves.pure _
      · apply Leaves.bind (readObject_leaves (fun member _ => readQuietly marker member.2) _)
        exact fun _ => Leaves.pure _

theorem readDefinitions_leaves (entries : List (Text × Json)) :
    (readDefinitions marker entries).Leaves SparesReferences := by
  induction entries with
  | nil => exact Leaves.pure []
  | cons entry entries ih =>
      rw [readDefinitions]
      split
      · exact ih
      · apply Leaves.bind (Leaves.ofExcept _)
        intro members
        apply Leaves.bind (readBody_leaves _ _ _)
        intro body
        apply Leaves.bind ih
        exact fun _ => Leaves.pure _

/-- Reading a document leaves no notice of a reference. -/
theorem read_leaves (marker document : Json) :
    (read marker document).Leaves SparesReferences := by
  rw [read]
  apply Leaves.bind (Leaves.ofExcept _)
  intro members
  apply Leaves.bind (Leaves.ofExcept _)
  intro entries
  apply Leaves.bind (readDefinitions_leaves entries)
  intro definitions
  apply Leaves.bind (Leaves.note nofun)
  exact fun _ => Leaves.pure _

end Schema

end ProtocolBindings
