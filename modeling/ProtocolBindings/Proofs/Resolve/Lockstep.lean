import ProtocolBindings.Proofs.Resolve.Contribution

/-!
# Runs in lockstep

A definition is resolved in the same steps whichever way its links are followed.  So a
relation between two runs that holds wherever a link is followed, and wherever both take
one step without a notice, holds of the two resolutions of a definition as a whole.  Every
such step that ends with an objection blames the definition that is being resolved.
-/

namespace ProtocolBindings

/-- An objection is blamed on the definition of a name. -/
def Failure.Blames (owner : Text) : Failure → Prop
  | .resolution error => error.owner = owner
  | .misuse _ => True

/-- An outcome that is no failure, or one that is blamed on the definition of a name. -/
def BlamedOn {α : Type} (owner : Text) (outcome : Except Failure α) : Prop :=
  ∀ failure, outcome = .error failure → failure.Blames owner

namespace BlamedOn

variable {α β : Type} {owner : Text}

theorem ok (value : α) : BlamedOn owner (.ok value : Except Failure α) := nofun

theorem error {failure : Failure} (blames : failure.Blames owner) :
    BlamedOn owner (.error failure : Except Failure α) := by
  rintro other ⟨⟩
  exact blames

theorem misuse (outcome : Except Misuse α) : BlamedOn owner (outcome.mapError .misuse) := by
  cases outcome with
  | ok value => exact ok value
  | error misuse => exact error trivial

theorem bind {first : Except Failure α} {next : α → Except Failure β}
    (blamed : BlamedOn owner first) (rest : ∀ value, BlamedOn owner (next value)) :
    BlamedOn owner (first >>= next) := by
  cases first with
  | ok value => exact rest value
  | error failure => exact error (blamed failure rfl)

end BlamedOn

namespace Resolve

open Model
open Schema (Additional Definition Fragment Link ObjectShape Place Property definition?)
open Reference (Follow)

/-! ## Steps without a notice -/

theorem ofScalars_blamed (scalars : List PrimitiveType) (nullable : Bool) (owner path : Text) :
    BlamedOn owner (ofScalars scalars nullable owner path) := by
  unfold ofScalars
  split
  · exact .ok _
  · exact .ok _
  · split
    · exact .error rfl
    · exact .ok _

theorem collapse_blamed (table : MemberTable) (types : List Json) (required : Bool)
    (owner path : Text) : BlamedOn owner (collapse table types required owner path) := by
  unfold collapse
  apply BlamedOn.bind (BlamedOn.misuse _)
  intro everything
  split
  · exact .ok _
  · apply BlamedOn.bind (BlamedOn.misuse _)
    intro scalars
    split
    · exact .ok _
    · exact ofScalars_blamed _ _ _ _

theorem ofUndeclared_blamed (owner : Text) (additional : Additional Fragment)
    (nullable : Bool) : BlamedOn owner (ofUndeclared owner additional nullable) := by
  unfold ofUndeclared
  split
  · exact .ok _
  · exact .ok _
  · split
    · split
      · exact .error rfl
      · exact .ok _
    · exact .ok _

theorem settled?_blamed {position : Position} {fragment : Fragment}
    {result : Except Failure TypeDescriptor}
    (settles : settled? position fragment = some result) : BlamedOn position.owner result := by
  cases fragment with
  | typeList place types =>
      cases settles
      exact collapse_blamed _ _ _ _ _
  | primitive place typeName =>
      cases settles
      exact .misuse _
  | object shape =>
      rw [settled?] at settles
      split at settles
      · cases settles
      · cases settles
        exact ofUndeclared_blamed _ _ _
  | array place items =>
      cases items with
      | none =>
          cases settles
          exact .ok _
      | some items => cases settles
  | composition place base extension =>
      cases settles
      exact .ok _
  | reference link => cases settles
  | enumeration values => cases settles

/-- A repeated name is blamed on the definition that repeats it. -/
theorem recordOrigins_blamed (definition : Definition) (origins : Origins)
    (entities : List Entity) :
    BlamedOn definition.name (recordOrigins definition origins entities) := by
  induction entities generalizing origins with
  | nil => exact .ok origins
  | cons entity entities ih =>
      rw [recordOrigins]
      split
      · exact .error rfl
      · exact ih _

/-! ## Runs in lockstep -/

/-- A relation between the runs for definitions of some names in which links are followed
in two ways. -/
structure Lockstep (owners : Text → Prop) (left right : Follow)
    (related : (α : Type) → Processing α → Processing α → Prop) : Prop where
  /-- What has no name may be of any definition. -/
  unnamed : owners [] → ∀ owner, owners owner
  follow {owner : Text} (owned : owners owner) (link : Link) :
    related Text (left owner link) (right owner link)
  step {owner : Text} (owned : owners owner) {α : Type} {outcome : Except Failure α}
    (blamed : BlamedOn owner outcome) : related α (.ofExcept outcome) (.ofExcept outcome)
  bind {α β : Type} {first second : Processing α} {firstNext secondNext : α → Processing β}
    (runs : related α first second)
    (next : ∀ value, related β (firstNext value) (secondNext value)) :
    related β (first >>= firstNext) (second >>= secondNext)

namespace Lockstep

variable {owners : Text → Prop} {left right : Follow}
variable {related : (α : Type) → Processing α → Processing α → Prop}
variable (lockstep : Lockstep owners left right related)

include lockstep

section

variable {owner : Text} (owned : owners owner)

include owned

theorem pure {α : Type} (value : α) : related α (Pure.pure value) (Pure.pure value) :=
  lockstep.step owned (.ok value)

theorem checked {α : Type} (outcome : Except Misuse α) :
    related α (Processing.checked outcome) (Processing.checked outcome) :=
  lockstep.step owned (.misuse outcome)

theorem misused {α : Type} (misuse : Misuse) :
    related α (Processing.misused misuse) (Processing.misused misuse) :=
  lockstep.step owned (.error trivial)

theorem refuse {α : Type} (objection : Objection) (detail : Text) :
    related α (Processing.refuse objection owner detail)
      (Processing.refuse objection owner detail) :=
  lockstep.step owned (.error rfl)

end

/-! ## Types -/

theorem recordOwner {position : Position} (owned : owners position.owner) :
    owners position.recordOwner := by
  rw [Position.recordOwner]
  split
  · next missing =>
      rw [List.isEmpty_iff.mp missing] at owned
      exact lockstep.unnamed owned _
  · exact owned

theorem inferOptional_of_each {position : Position} (owned : owners position.owner)
    {fragment : Option Fragment}
    (inner : ∀ present, fragment = some present →
      related Inference (infer left position present) (infer right position present)) :
    related Inference (inferOptional left position fragment)
      (inferOptional right position fragment) := by
  cases fragment with
  | none =>
      rw [inferOptional, inferOptional]
      exact lockstep.pure owned _
  | some present =>
      rw [inferOptional, inferOptional]
      exact inner present rfl

theorem inferProperties_of_each {owner name : Text} (owned : owners owner)
    {properties : List (Property Fragment)}
    (each : ∀ property ∈ properties, ∀ fragment, property.fragment = some fragment →
      related Inference (infer left (propertyPosition owner name property) fragment)
        (infer right (propertyPosition owner name property) fragment)) :
    related (List RecordProperty × List Entity) (inferProperties left owner name properties)
      (inferProperties right owner name properties) := by
  induction properties with
  | nil =>
      rw [inferProperties, inferProperties]
      exact lockstep.pure owned _
  | cons property rest ih =>
      obtain ⟨first, later⟩ := List.forall_mem_cons.mp each
      rw [inferProperties_cons, inferProperties_cons]
      have own : owners (propertyPosition owner name property).owner := owned
      apply lockstep.bind (lockstep.inferOptional_of_each own first)
      intro inference
      apply lockstep.bind (ih later)
      exact fun _ => lockstep.pure owned _

theorem infer_of_settled {position : Position} (owned : owners position.owner)
    {fragment : Fragment} {result : Except Failure TypeDescriptor}
    (settles : settled? position fragment = some result) :
    related Inference (infer left position fragment) (infer right position fragment) := by
  rw [Resolve.infer_of_settled left settles, Resolve.infer_of_settled right settles]
  apply lockstep.bind (lockstep.step owned (settled?_blamed settles))
  exact fun _ => lockstep.pure owned _

/-- The types of a fragment are inferred in lockstep. -/
theorem infer {position : Position} (owned : owners position.owner) (fragment : Fragment) :
    related Inference (Resolve.infer left position fragment)
      (Resolve.infer right position fragment) := by
  -- The position changes from a fragment to the fragments inside it, and so may the owner.
  induction fragment using Fragment.induct generalizing position with
  | primitive place typeName => exact lockstep.infer_of_settled owned rfl
  | typeList place types => exact lockstep.infer_of_settled owned rfl
  | bareArray place => exact lockstep.infer_of_settled owned rfl
  | composition place base extension => exact lockstep.infer_of_settled owned rfl
  | enumeration values =>
      rw [Resolve.infer, Resolve.infer]
      exact lockstep.pure owned _
  | reference link =>
      rw [Resolve.infer, Resolve.infer]
      apply lockstep.bind (lockstep.follow owned link)
      exact fun _ => lockstep.pure owned _
  | array place items ih =>
      rw [Resolve.infer, Resolve.infer]
      have own : owners position.ofItems.owner := owned
      apply lockstep.bind (ih own)
      exact fun _ => lockstep.pure owned _
  | object shape properties _ =>
      by_cases declared : shape.declared = true
      · have recordOwned := lockstep.recordOwner owned
        rw [infer_declared left declared, infer_declared right declared]
        apply lockstep.bind (lockstep.inferProperties_of_each recordOwned
          fun property member fragment found => properties property member fragment found
            recordOwned)
        exact fun _ => lockstep.pure owned _
      · exact lockstep.infer_of_settled owned (by rw [settled?, if_neg declared])

/-! ## Contributions -/

section

variable {owner : Text} (owned : owners owner)

include owned

theorem inferPayload? (anchor property : Text) (payload : Option (Property Fragment)) :
    related (Option Inference) (Resolve.inferPayload? left owner anchor property payload)
      (Resolve.inferPayload? right owner anchor property payload) := by
  cases payload with
  | none => exact lockstep.pure owned none
  | some payload =>
      have own : owners (payloadPosition owner anchor property payload).owner := owned
      apply lockstep.bind (lockstep.inferOptional_of_each own
        fun present _ => lockstep.infer own present)
      exact fun _ => lockstep.pure owned _

theorem pairRequest (definitions : List Definition) (place : Place)
    (shape : Option (ObjectShape Fragment)) :
    related (Request × List Entity) (Resolve.pairRequest left definitions owner place shape)
      (Resolve.pairRequest right definitions owner place shape) := by
  simp only [Resolve.pairRequest]
  cases fixedValue? ((shape.map ObjectShape.properties).getD []) "command" with
  | none => exact lockstep.refuse owned _ _
  | some command =>
      cases (Naming.response? owner).bind (definition? definitions) with
      | none => exact lockstep.refuse owned _ _
      | some response =>
          apply lockstep.bind (lockstep.inferPayload? owned _ _ _)
          intro arguments
          apply lockstep.bind (lockstep.inferPayload? owned _ _ _)
          exact fun _ => lockstep.pure owned _

theorem pairEvent (place : Place) (shape : Option (ObjectShape Fragment)) :
    related (Event × List Entity) (Resolve.pairEvent left owner place shape)
      (Resolve.pairEvent right owner place shape) := by
  simp only [Resolve.pairEvent]
  cases fixedValue? ((shape.map ObjectShape.properties).getD []) "event" with
  | none => exact lockstep.refuse owned _ _
  | some eventName =>
      apply lockstep.bind (lockstep.inferPayload? owned _ _ _)
      exact fun _ => lockstep.pure owned _

theorem recordEntities (shape : Option (ObjectShape Fragment)) (base : Option Text)
    (description : Json) :
    related (List Entity) (Resolve.recordEntities left owner shape base description)
      (Resolve.recordEntities right owner shape base description) := by
  rw [Resolve.recordEntities, Resolve.recordEntities]
  apply lockstep.bind (lockstep.inferProperties_of_each owned ?_)
  · exact fun _ => lockstep.pure owned _
  · intro property _ fragment _
    have own : owners (propertyPosition owner owner property).owner := owned
    exact lockstep.infer own fragment

theorem followBase (base : Option Fragment) :
    related (Option Text) (Resolve.followBase left owner base)
      (Resolve.followBase right owner base) := by
  cases base with
  | none => exact lockstep.pure owned none
  | some fragment =>
      cases fragment with
      | reference link =>
          apply lockstep.bind (lockstep.follow owned link)
          exact fun _ => lockstep.pure owned _
      | _ => exact lockstep.misused owned _

theorem inlineObject (extension : Option Fragment) :
    related (Option (ObjectShape Fragment)) (Resolve.inlineObject extension)
      (Resolve.inlineObject extension) := by
  cases extension with
  | none => exact lockstep.pure owned none
  | some fragment =>
      cases fragment with
      | object shape => exact lockstep.pure owned _
      | _ => exact lockstep.misused owned _

theorem optionHolds (option : Option Json) (name : Option Text) :
    related Bool (Resolve.optionHolds option name) (Resolve.optionHolds option name) := by
  apply lockstep.bind (lockstep.checked owned _)
  exact fun _ => lockstep.checked owned _

end

/-- The contributions of a definition are resolved in lockstep. -/
theorem contribution (config : Config) (definitions : List Definition)
    {definition : Definition} (owned : owners definition.name) :
    related Contribution (Resolve.contribution config left definitions definition)
      (Resolve.contribution config right definitions definition) := by
  obtain ⟨name, place, body⟩ := definition
  unfold Resolve.contribution
  dsimp only at owned ⊢
  cases body with
  | none => exact lockstep.refuse owned _ _
  | some fragment =>
      cases fragment with
      | composition place base extension =>
          apply lockstep.bind (lockstep.followBase owned base)
          intro baseName
          by_cases request : baseName = some requestBase
          · rw [if_pos request, if_pos request]
            apply lockstep.bind (lockstep.inlineObject owned extension)
            intro shape
            apply lockstep.bind (lockstep.pairRequest owned definitions place shape)
            exact fun _ => lockstep.pure owned _
          · rw [if_neg request, if_neg request]
            by_cases event : baseName = some eventBase
            · rw [if_pos event, if_pos event]
              apply lockstep.bind (lockstep.inlineObject owned extension)
              intro shape
              apply lockstep.bind (lockstep.pairEvent owned place shape)
              exact fun _ => lockstep.pure owned _
            · rw [if_neg event, if_neg event]
              apply lockstep.bind (lockstep.optionHolds owned _ _)
              intro reserved
              cases reserved with
              | true => exact lockstep.pure owned _
              | false =>
                  apply lockstep.bind (lockstep.inlineObject owned extension)
                  intro shape
                  apply lockstep.bind (lockstep.recordEntities owned shape baseName _)
                  exact fun _ => lockstep.pure owned _
      | enumeration values => exact lockstep.pure owned _
      | object shape =>
          apply lockstep.bind (lockstep.recordEntities owned (some shape) none _)
          exact fun _ => lockstep.pure owned _
      | primitive | typeList | reference | array => exact lockstep.refuse owned _ _

/-- The contributions of all definitions are resolved in lockstep if every name is one of
those considered. -/
theorem contributions (config : Config) (definitions : List Definition)
    (owned : ∀ owner, owners owner) (origins : Origins) (rest : List Definition) :
    related (List Contribution) (Resolve.contributions config left definitions origins rest)
      (Resolve.contributions config right definitions origins rest) := by
  induction rest generalizing origins with
  | nil =>
      rw [Resolve.contributions, Resolve.contributions]
      exact lockstep.pure (owned []) _
  | cons definition rest ih =>
      have own := owned definition.name
      rw [Resolve.contributions, Resolve.contributions]
      apply lockstep.bind
      · apply lockstep.bind (lockstep.optionHolds own _ _)
        intro ignored
        cases ignored with
        | true => exact lockstep.pure own true
        | false => exact lockstep.optionHolds own _ _
      · intro skipped
        cases skipped with
        | true => exact ih origins
        | false =>
            apply lockstep.bind (lockstep.contribution config definitions own)
            intro first
            apply lockstep.bind (lockstep.step own (recordOrigins_blamed definition _ _))
            intro recorded
            apply lockstep.bind (ih recorded)
            exact fun _ => lockstep.pure own _

end Lockstep

end Resolve

end ProtocolBindings
