import ProtocolBindings.Proofs.Resolve.Failures
import ProtocolBindings.Proofs.Resolve.Ignoring
import ProtocolBindings.Proofs.Resolve.Lockstep

/-!
# Blame

An objection is blamed on the first definition that cannot be resolved after those before
it.  Ignoring that definition leaves the ones before it as they were, so that the next
objection, if there is any, is blamed on a later one.
-/

namespace ProtocolBindings

theorem Config.ListsNames.ignoring {config : Config} {ignored reserved : List Text}
    (listed : config.ListsNames ignored reserved) (name : Text) :
    (config.ignoring name).ListsNames (ignored ++ [name]) reserved := by
  refine ⟨?_, listed.reserved⟩
  rw [Config.ignoring, listed.ignored]
  simp [Json.withText]

namespace Resolve

open Schema (Definition DocumentShaped)
open Reference (Follow)

/-! ## The blamed definition -/

section

variable {config : Config} {follow : Follow} {owner : Text}

theorem follow_blames (known : Text → Bool) (strict : Bool) (owner : Text)
    (link : Schema.Link) :
    (Reference.follow known strict owner link).Ends (fun _ => True) (Failure.Blames owner) := by
  unfold Reference.follow
  split
  · split
    · split
      · exact Traced.Ends.pure trivial
      · exact Traced.Ends.fail rfl
    · split
      · exact Traced.Ends.fail rfl
      · exact Traced.Ends.note_bind (Traced.Ends.pure trivial)
  · exact Traced.Ends.fail trivial

/-- The runs for a definition blame it, provided that it has a name: a record inside one
without a name would be blamed itself. -/
theorem lockstep_blames (named : owner ≠ [])
    (follows : ∀ link, (follow owner link).Ends (fun _ => True) (Failure.Blames owner)) :
    Lockstep (· = owner) follow follow fun _ run _ =>
      run.Ends (fun _ => True) (Failure.Blames owner) where
  unnamed := fun unnamed => absurd unnamed.symm named
  follow := by
    rintro _ rfl link
    exact follows link
  step := by
    rintro _ rfl _ outcome blamed
    exact Traced.Ends.ofExcept (fun _ _ => trivial) blamed
  bind := fun runs next => runs.bind fun value _ => next value

theorem contribution_blames {definitions : List Definition} {definition : Definition}
    (named : definition.name ≠ []) :
    (contribution config (followIn config definitions) definitions definition).Ends
      (fun _ => True) (Failure.Blames definition.name) :=
  (lockstep_blames named fun link => follow_blames _ _ _ link).contribution config definitions
    rfl

end

/-! ## Admitted definitions -/

/-- Some definitions can be resolved one after another. -/
def Admits (config : Config) (all rest : List Definition) : Prop :=
  ∃ contributionOf, Resolvable config all contributionOf rest

namespace Admits

variable {config : Config} {all before after rest : List Definition}

theorem iff_contributions :
    Admits config all rest ↔
      ∃ parts, (contributions config (followIn config all) all [] rest).outcome =
        .ok parts := by
  constructor
  · rintro ⟨contributionOf, resolvable⟩
    exact ⟨_, contributions_iff_resolvable.mpr ⟨contributionOf, resolvable, rfl⟩⟩
  · rintro ⟨parts, ended⟩
    obtain ⟨contributionOf, resolvable, _⟩ := contributions_iff_resolvable.mp ended
    exact ⟨contributionOf, resolvable⟩

theorem of_append (admits : Admits config all (before ++ after)) :
    Admits config all before := by
  obtain ⟨contributionOf, decided, each, fresh⟩ := admits
  have split : kept config (before ++ after) = kept config before ++ kept config after :=
    List.filter_append ..
  rw [split] at each fresh
  rw [List.flatMap_append] at fresh
  exact ⟨contributionOf, (List.forall_mem_append.mp decided).1,
    (List.forall_mem_append.mp each).1, (List.nodup_append.mp fresh).1⟩

end Admits

/-- An objection that is raised at a definition: those before it are admitted, but it is
not admitted after them. -/
structure RaisedAt (config : Config) (all before : List Definition) (culprit : Definition)
    (after : List Definition) (error : ResolutionError) : Prop where
  split : all = before ++ culprit :: after
  blamed : error.owner = culprit.name
  held : isKept config culprit = true
  admitted : Admits config all before
  refused : ¬Admits config all (before ++ [culprit])

/-! ## The first refusal -/

section

variable {config : Config} {follow : Follow} {all rest : List Definition}
variable {definition : Definition} {origins : Origins} {failure : Failure}

theorem isKept_iff_held :
    isKept config definition = true ↔ (isSkipped config definition).outcome = .ok false := by
  rw [isKept]
  cases (isSkipped config definition).outcome with
  | ok skipped => simp
  | error failure => simp

/-- What a definition that is kept contributes, and the origins of all entities up to its
own. -/
def contributeNext (config : Config) (follow : Follow) (all : List Definition)
    (definition : Definition) (origins : Origins) : Processing (Contribution × Origins) := do
  let part ← contribution config follow all definition
  let recorded ← Traced.ofExcept (recordOrigins definition origins part.entities)
  return (part, recorded)

theorem contributions_cons_of_next (held : (isSkipped config definition).outcome = .ok false) :
    (contributions config follow all origins (definition :: rest)).outcome =
      (contributeNext config follow all definition origins >>= fun admitted =>
        (admitted.1 :: ·) <$> contributions config follow all admitted.2 rest).outcome := by
  rw [contributions_cons_of_kept held]
  simp [contributeNext]

theorem contributeNext_blames
    (blames : (contribution config follow all definition).Ends (fun _ => True)
      (Failure.Blames definition.name)) :
    (contributeNext config follow all definition origins).Ends (fun _ => True)
      (Failure.Blames definition.name) := by
  apply Traced.Ends.bind blames
  intro part _
  apply Traced.Ends.bind (Traced.Ends.ofExcept (fun _ _ => trivial)
    (recordOrigins_blamed definition origins part.entities))
  exact fun _ _ => Traced.Ends.pure trivial

/-- If some definitions cannot be worked through, then the failure is that of the first one
at which it goes no further. -/
theorem exists_refused
    (decided : ∀ definition ∈ rest, ∃ skipped,
      (isSkipped config definition).outcome = .ok skipped)
    (blames : ∀ definition ∈ rest,
      (contribution config follow all definition).Ends (fun _ => True)
        (Failure.Blames definition.name))
    (failed : (contributions config follow all origins rest).outcome = .error failure) :
    ∃ before culprit after, rest = before ++ culprit :: after ∧
      isKept config culprit = true ∧ failure.Blames culprit.name ∧
      (∃ parts, (contributions config follow all origins before).outcome = .ok parts) ∧
      (contributions config follow all origins (before ++ [culprit])).outcome =
        .error failure := by
  -- Either the first definition is refused, or the refused one is among the others, which
  -- start from the origins that the first one leaves.
  induction rest generalizing origins with
  | nil =>
      rw [contributions] at failed
      cases failed
  | cons definition rest ih =>
      obtain ⟨own, others⟩ := List.forall_mem_cons.mp blames
      have later := fun recorded => @ih recorded (List.forall_mem_cons.mp decided).2 others
      obtain ⟨skipped, judged⟩ := decided definition List.mem_cons_self
      cases skipped with
      | true =>
          rw [contributions_cons_of_skipped judged] at failed
          obtain ⟨before, culprit, after, rfl, held, blamed, admitted, refused⟩ :=
            later origins failed
          refine ⟨definition :: before, culprit, after, rfl, held, blamed, ?_, ?_⟩
          · rwa [contributions_cons_of_skipped judged]
          · rwa [List.cons_append, contributions_cons_of_skipped judged]
      | false =>
          rw [contributions_cons_of_next judged] at failed
          cases ended : (contributeNext config follow all definition origins).outcome with
          | error other =>
              rw [Traced.bind_of_error _ ended] at failed
              cases failed
              refine ⟨[], definition, rest, rfl, isKept_iff_held.mpr judged,
                (contributeNext_blames own).of_error ended, ⟨[], by rw [contributions]; rfl⟩, ?_⟩
              rw [List.nil_append, contributions_cons_of_next judged,
                Traced.bind_of_error _ ended]
          | ok admitted =>
              rw [Traced.bind_of_ok _ ended] at failed
              obtain ⟨before, culprit, after, rfl, held, blamed, ⟨parts, before_ok⟩, refused⟩ :=
                later admitted.2 (Traced.outcome_map_eq_error_iff.mp failed)
              refine ⟨definition :: before, culprit, after, rfl, held, blamed,
                ⟨admitted.1 :: parts, ?_⟩, ?_⟩
              · rw [contributions_cons_of_next judged, Traced.bind_of_ok _ ended]
                exact Traced.outcome_map_eq_ok_iff.mpr ⟨parts, before_ok, rfl⟩
              · rw [List.cons_append, contributions_cons_of_next judged,
                  Traced.bind_of_ok _ ended]
                exact Traced.outcome_map_eq_error_iff.mpr refused

end

/-! ## Blame and progress -/

section

variable {config : Config} {ignored reserved : List Text} {definitions : List Definition}
variable {version : Json}

theorem contributions_of_analyze {failure : Failure}
    (failed : (analyze config definitions version).outcome = .error failure) :
    (contributions config (followIn config definitions) definitions [] definitions).outcome =
      .error failure := by
  cases ended : (contributions config (followIn config definitions) definitions []
    definitions).outcome with
  | ok parts =>
      rw [analyze, Traced.bind_of_ok _ ended] at failed
      cases failed
  | error other =>
      rw [analyze, Traced.bind_of_error _ ended] at failed
      cases failed
      rfl

/-- What the analysis of well-typed definitions with names relies on. -/
structure Analyzable (config : Config) (ignored reserved : List Text)
    (definitions : List Definition) : Prop where
  listed : config.ListsNames ignored reserved
  typed : ∀ definition ∈ definitions, definition.WellTyped
  named : ∀ definition ∈ definitions, definition.name ≠ []

theorem Analyzable.ignoring (analyzable : Analyzable config ignored reserved definitions)
    (name : Text) : Analyzable (config.ignoring name) (ignored ++ [name]) reserved definitions :=
  ⟨analyzable.listed.ignoring name, analyzable.typed, analyzable.named⟩

/-- If there is no model, then an objection is raised at a definition. -/
theorem Analyzable.exists_raisedAt (analyzable : Analyzable config ignored reserved definitions)
    {failure : Failure}
    (failed : (analyze config definitions version).outcome = .error failure) :
    ∃ before culprit after error, failure = .resolution error ∧
      RaisedAt config definitions before culprit after error := by
  have expected := (analyze_ends analyzable.listed analyzable.typed version).of_error failed
  have decided : ∀ definition ∈ definitions, ∃ skipped,
      (isSkipped config definition).outcome = .ok skipped := by
    intro definition _
    exact ⟨_, congrArg Traced.outcome (isSkipped_of_listsNames analyzable.listed definition)⟩
  obtain ⟨before, culprit, after, split, held, blamed, admitted, refused⟩ :=
    exists_refused decided
      (fun definition member => contribution_blames (analyzable.named definition member))
      (contributions_of_analyze failed)
  cases failure with
  | misuse misuse => exact expected.elim
  | resolution error =>
      refine ⟨before, culprit, after, error, rfl, split, blamed, held,
        Admits.iff_contributions.mpr admitted, ?_⟩
      intro admits
      obtain ⟨parts, ended⟩ := Admits.iff_contributions.mp admits
      rw [refused] at ended
      cases ended

/-- If the culprit is ignored, the next objection is raised after it. -/
theorem RaisedAt.later {items : List Json}
    (listed : config.ignoreClasses = some (.array items))
    {before otherBefore after otherAfter : List Definition} {culprit other : Definition}
    {error next : ResolutionError}
    (raised : RaisedAt config definitions before culprit after error)
    (again : RaisedAt (config.ignoring error.owner) definitions otherBefore other otherAfter
      next) :
    ∃ between, after = between ++ other :: otherAfter := by
  have differs : other ≠ culprit := by
    rintro rfl
    have held := again.held
    rw [isKept_ignoring listed] at held
    simp [raised.blamed] at held
  have aligned := raised.split.symm.trans again.split
  rcases List.append_eq_append_iff.mp aligned with
    ⟨between, extends_, tail⟩ | ⟨between, extends_, tail⟩
  · cases between with
    | nil => exact absurd (List.cons.inj tail).1.symm differs
    | cons first between => exact ⟨between, (List.cons.inj tail).2⟩
  · cases between with
    | nil => exact absurd (List.cons.inj tail).1 differs
    | cons first between =>
        -- What stands before the first culprit is admitted, and ignoring that one does not
        -- change this; so the next culprit cannot stand there.
        have earlier : before = (otherBefore ++ [other]) ++ between := by
          rw [extends_, (List.cons.inj tail).1, List.append_assoc]
          rfl
        obtain ⟨contributionOf, resolvable⟩ := raised.admitted
        have admitted : Admits (config.ignoring error.owner) definitions before :=
          ⟨contributionOf, resolvable.ignoring listed error.owner⟩
        rw [earlier] at admitted
        exact absurd admitted.of_append again.refused

end

/-! ## Rounds -/

/-- The configuration after some rounds, in each of which the definition that is blamed is
ignored.  A round in which there is a model changes nothing. -/
def afterRounds (definitions : List Definition) (version : Json) : Nat → Config → Config
  | 0, config => config
  | rounds + 1, config =>
      match (analyze config definitions version).outcome with
      | .error (.resolution error) =>
          afterRounds definitions version rounds (config.ignoring error.owner)
      | _ => config

section

variable {config : Config} {ignored reserved : List Text} {definitions : List Definition}

/-- There is a model after as many rounds as there can be objections. -/
theorem Analyzable.exists_model_afterRounds
    (analyzable : Analyzable config ignored reserved definitions) (version : Json)
    (rounds : Nat)
    (bounded : ∀ before culprit after error,
      RaisedAt config definitions before culprit after error → after.length < rounds) :
    ∃ model, (analyze (afterRounds definitions version rounds config) definitions
      version).outcome = .ok model := by
  -- In each round fewer definitions are left after the one that is blamed.
  induction rounds generalizing config ignored with
  | zero =>
      cases ended : (analyze config definitions version).outcome with
      | ok model => exact ⟨model, ended⟩
      | error failure =>
          obtain ⟨before, culprit, after, error, _, raised⟩ := analyzable.exists_raisedAt ended
          exact absurd (bounded _ _ _ _ raised) (Nat.not_lt_zero _)
  | succ rounds ih =>
      cases ended : (analyze config definitions version).outcome with
      | ok model => exact ⟨model, by rw [afterRounds, ended]; exact ended⟩
      | error failure =>
          obtain ⟨before, culprit, after, error, rfl, raised⟩ := analyzable.exists_raisedAt ended
          rw [afterRounds, ended]
          apply ih (analyzable.ignoring error.owner)
          intro _ _ otherAfter _ again
          obtain ⟨between, follows⟩ := raised.later analyzable.listed.ignored again
          have shorter := bounded _ _ _ _ raised
          rw [follows, List.length_append, List.length_cons] at shorter
          omega

/-- An objection to definitions that were read from a well-shaped document is blamed on one
of them that is neither ignored nor reserved, and if that one is ignored, the next objection
is blamed on a later one.  So there is a model after as many rounds as definitions. -/
theorem blamed_of_analyze {marker : Text} (listed : config.ListsNames ignored reserved)
    {document : Json} (shaped : DocumentShaped marker document)
    (read : (Schema.read (.text marker) document).outcome = .ok definitions)
    (named : ∀ definition ∈ definitions, definition.name ≠ []) (version : Json) :
    (∀ error, (analyze config definitions version).outcome = .error (.resolution error) →
      ∃ before culprit after, definitions = before ++ culprit :: after ∧
        error.owner = culprit.name ∧ culprit.name ∉ ignored ∧ culprit.name ∉ reserved ∧
        ((∃ model, (analyze (config.ignoring error.owner) definitions version).outcome =
            .ok model) ∨
          ∃ next, (analyze (config.ignoring error.owner) definitions version).outcome =
              .error (.resolution next) ∧
            ∃ later ∈ after, next.owner = later.name)) ∧
    ∃ model, (analyze (afterRounds definitions version definitions.length config) definitions
      version).outcome = .ok model := by
  have typed := (Schema.read_ends true shaped).of_ok read
  have analyzable : Analyzable config ignored reserved definitions := ⟨listed, typed, named⟩
  constructor
  · intro error failed
    obtain ⟨before, culprit, after, _, same, raised⟩ := analyzable.exists_raisedAt failed
    cases same
    have among : culprit ∈ kept config definitions := by
      rw [kept, List.mem_filter, raised.split]
      exact ⟨List.mem_append_right _ List.mem_cons_self, raised.held⟩
    obtain ⟨_, notIgnored, notReserved⟩ := (mem_kept_of_listsNames listed).mp among
    refine ⟨before, culprit, after, raised.split, raised.blamed, notIgnored, notReserved, ?_⟩
    cases ended : (analyze (config.ignoring error.owner) definitions version).outcome with
    | ok model => exact .inl ⟨model, rfl⟩
    | error failure =>
        obtain ⟨_, other, _, next, rfl, again⟩ :=
          (analyzable.ignoring error.owner).exists_raisedAt ended
        obtain ⟨between, follows⟩ := raised.later listed.ignored again
        refine .inr ⟨next, rfl, other, ?_, again.blamed⟩
        rw [follows]
        exact List.mem_append_right _ List.mem_cons_self
  · apply analyzable.exists_model_afterRounds version
    intro before culprit after error raised
    rw [raised.split, List.length_append, List.length_cons]
    omega

end

/-- The members of a record whose only property refers to a definition. -/
def linkingMembers (property target : Text) : List (Text × Json) :=
  [("properties", .object [(property, .object [("$ref", .text target)])])]

/-- A document in which two records refer to definitions that are missing. -/
def strokeDocument : Json :=
  .object [("definitions", .object [
    ("Line", .object (linkingMembers "start" "#/definitions/Dot")),
    ("Area", .object (linkingMembers "edge" "#/definitions/Ring")),
    ("Path", .object (linkingMembers "first" "#/definitions/Line"))])]

theorem blamed_strokeDocument :
    let definitions := (Schema.read (.text "_enum") strokeDocument).valueOr []
    let error : ResolutionError := ⟨.unresolvedReference "#/definitions/Dot", "Line",
      "#/definitions/Line/properties/start"⟩
    let next : ResolutionError := ⟨.unresolvedReference "#/definitions/Ring", "Area",
      "#/definitions/Area/properties/edge"⟩
    (analyze {} definitions .null).outcome = .error (.resolution error) ∧
    (analyze (Config.ignoring {} error.owner) definitions .null).outcome =
      .error (.resolution next) ∧
    (∃ before culprit after, definitions = before ++ culprit :: after ∧
      error.owner = culprit.name ∧ ∃ later ∈ after, next.owner = later.name) ∧
    ∃ model, (analyze (afterRounds definitions .null definitions.length {}) definitions
      .null).outcome = .ok model := by
  intro definitions error next
  have read : (Schema.read (.text "_enum") strokeDocument).outcome = .ok definitions :=
    Traced.outcome_eq_valueOr [] (by decide +kernel)
  have named : ∀ definition ∈ definitions, definition.name ≠ [] := by decide +kernel
  have shaped : DocumentShaped "_enum" strokeDocument := by decide +kernel
  obtain ⟨blamed, progress⟩ := blamed_of_analyze Config.listsNames_default shaped read named .null
  have failed : (analyze {} definitions .null).outcome = .error (.resolution error) :=
    Traced.error?_eq_some_iff.mp (by decide +kernel)
  have again : (analyze (Config.ignoring {} error.owner) definitions .null).outcome =
      .error (.resolution next) :=
    Traced.error?_eq_some_iff.mp (by decide +kernel)
  obtain ⟨before, culprit, after, split, same, _, _, ⟨model, ended⟩ | ⟨other, ended, later⟩⟩ :=
    blamed error failed
  · rw [again] at ended
    cases ended
  · rw [again] at ended
    cases ended
    exact ⟨failed, again, ⟨before, culprit, after, split, same, later⟩, progress⟩

end Resolve

end ProtocolBindings
