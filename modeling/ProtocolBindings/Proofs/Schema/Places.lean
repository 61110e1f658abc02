import ProtocolBindings.Proofs.Schema.Routes
import ProtocolBindings.Reference

/-!
# Places in the notices of reading

A notice of reading names the place of a node of the definitions, which is the enumeration
that it is about.  Reading raises one objection only, at a definition with several inline
objects.
-/

namespace ProtocolBindings

open Relation (ReflTransGen)
open Schema (Definition Enumeration Node Occurs Place)

/-- The path in a schema that a notice shows. -/
def Notice.schemaPath? : Notice → Option Text
  | .duplicateValue _ path | .malformedReference _ path => some path
  | .definitionsRead _ | .schemaResolved _ _ _ | .formatterAbsent | .moduleGenerated _ => none

/-- The node that a notice is about: an enumeration that has the value that was dropped, or a
reference that is not well-formed. -/
inductive Notice.Concerns : Notice → Node → Prop where
  | duplicateValue {values : Enumeration} {value : Text} (held : value ∈ values.values) :
      Concerns (.duplicateValue value values.place.path) (.fragment (.enumeration values))
  | malformedReference {place : Place} {reference : Text}
      (malformed : Reference.name? reference = none) :
      Concerns (.malformedReference reference place.path)
        (.fragment (.reference ⟨place, .text reference⟩))

/-- A notice that is about a node, or about one inside it at any depth. -/
def Notice.ConcernsPart (notice : Notice) (outer : Node) : Prop :=
  ∃ node, ReflTransGen Node.Holds outer node ∧ notice.Concerns node

theorem Notice.Concerns.path {notice : Notice} {node : Node} (concerns : notice.Concerns node) :
    notice.schemaPath? = some node.place.path := by
  cases concerns with
  | duplicateValue held => rfl
  | malformedReference malformed => rfl

/-- The path that a notice shows, if it shows one, is that of a node of the definitions that it
is about. -/
def Notice.Placed (definitions : List Definition) (notice : Notice) : Prop :=
  ∀ path, notice.schemaPath? = some path →
    ∃ node, Occurs definitions node ∧ node.place.path = path ∧ notice.Concerns node

theorem Notice.Placed.of_none {definitions : List Definition} {notice : Notice}
    (silent : notice.schemaPath? = none) : notice.Placed definitions := by
  intro path shown
  rw [silent] at shown
  cases shown

theorem Notice.ConcernsPart.of_holds {notice : Notice} {outer inner : Node}
    (holds : outer.Holds inner) (concerns : notice.ConcernsPart inner) :
    notice.ConcernsPart outer := by
  obtain ⟨node, within, about⟩ := concerns
  exact ⟨node, .head holds within, about⟩

/-- A failure that is no objection. -/
def Failure.IsMisuse (failure : Failure) : Prop := ∃ misuse, failure = .misuse misuse

namespace Schema

open Json (field lookup)
open Traced (Reports)

variable {marker : Json}

theorem checked_misuse {α : Type} {step : Except Misuse α} {failure : Failure}
    (ended : step.mapError Failure.misuse = .error failure) : failure.IsMisuse := by
  cases step with
  | ok value => cases ended
  | error misuse =>
      cases ended
      exact ⟨misuse, rfl⟩

/-! ## Fragments -/

theorem readValues_reports (path : Text) (descriptions : Json) (position : Nat)
    (seen : List Text) (values : List Json) :
    (readValues path descriptions position seen values).Reports
      (fun read notice => ∃ value, notice = .duplicateValue value path ∧
        (value ∈ seen ∨ value ∈ read.map Prod.fst)) Failure.IsMisuse := by
  induction values generalizing position seen with
  | nil => exact Reports.pure []
  | cons value values ih =>
      rw [readValues]
      split
      · rename_i repeated
        have dropped : (Traced.note (.duplicateValue value.display path) : Processing Unit).Reports
            (fun _ notice => notice = .duplicateValue value.display path) Failure.IsMisuse :=
          ⟨fun _ _ => List.forall_mem_singleton.mpr rfl, nofun⟩
        apply dropped.bind
        · exact fun _ _ => ih _ _
        · rintro _ read _ _ rfl
          exact ⟨_, rfl, .inl repeated⟩
      · apply Reports.ofExcept_bind fun _ => checked_misuse
        intro description _
        apply Reports.bind_pure (ih _ _)
        rintro others notice ⟨dropped, same, among⟩
        refine ⟨dropped, same, ?_⟩
        rw [List.mem_cons] at among
        rw [List.map_cons, List.mem_cons]
        tauto

theorem readEnumeration_reports (members : List (Text × Json)) (values : Json) (path : Text)
    (isOpen : Bool) :
    (readEnumeration members values path isOpen).Reports
      (fun enumeration notice => notice.ConcernsPart (.fragment (.enumeration enumeration)))
      Failure.IsMisuse := by
  rw [readEnumeration]
  apply Reports.ofExcept_bind fun _ => checked_misuse
  intro items _
  apply Reports.bind_pure (readValues_reports _ _ _ _ _)
  rintro read notice ⟨value, rfl, among⟩
  refine ⟨_, .refl, ?_⟩
  exact @Notice.Concerns.duplicateValue ⟨⟨path, _⟩, _, _, _⟩ value
    (among.resolve_left List.not_mem_nil)

/-- What reading a value reports, as a fragment and as a mapping of properties. -/
structure ReadReports (marker value : Json) : Prop where
  fragment : ∀ path, (readFragment marker path value).Reports
    (fun fragment notice => notice.ConcernsPart (.fragment fragment)) Failure.IsMisuse
  mapping : ∀ path required, (readMapping marker path required value).Reports
    (fun properties notice => ∃ property ∈ properties, notice.ConcernsPart (.property property))
    Failure.IsMisuse

section

variable {members : List (Text × Json)}
variable (reads : ∀ member ∈ members, ReadReports marker member.2)

include reads

theorem readAt_reports (path key : Text) :
    (readAt marker path key members).Reports
      (fun read notice => ∃ fragment, read = some fragment ∧
        notice.ConcernsPart (.fragment fragment)) Failure.IsMisuse := by
  rw [readAt_eq]
  split
  · rename_i inner found
    apply Reports.map ((reads _ (Json.mem_of_lookup found)).fragment path)
    exact fun fragment notice concerns => ⟨fragment, rfl, concerns⟩
  · exact Reports.pure none

theorem readProperties_reports (path : Text) (required : Json) :
    (readProperties marker path required members).Reports
      (fun properties notice => ∃ property ∈ properties,
        notice.ConcernsPart (.property property)) Failure.IsMisuse := by
  induction members with
  | nil =>
      rw [readProperties]
      exact Reports.pure []
  | cons entry entries ih =>
      obtain ⟨first, later⟩ := List.forall_mem_cons.mp reads
      rw [readProperties]
      apply Reports.bind (first.fragment _)
      · intro fragment _
        apply Reports.ofExcept_bind fun _ => checked_misuse
        intro isRequired _
        apply Reports.bind_pure (ih later)
        rintro others notice ⟨property, member, concerns⟩
        exact ⟨property, List.mem_cons_of_mem _ member, concerns⟩
      · intro fragment properties ended notice concerns
        obtain ⟨isRequired, -, ended⟩ := Traced.outcome_bind_eq_ok_iff.mp ended
        obtain ⟨others, -, result⟩ := Traced.outcome_bind_eq_ok_iff.mp ended
        cases result
        exact ⟨_, List.mem_cons_self, concerns.of_holds (.type rfl)⟩

theorem readDeclared_reports (path : Text) (required : Json) :
    (readDeclared marker path required members).Reports
      (fun properties notice => ∃ property ∈ properties,
        notice.ConcernsPart (.property property)) Failure.IsMisuse := by
  rw [readDeclared_eq]
  split
  · rename_i mapping found
    exact (reads _ (Json.mem_of_lookup found)).mapping path required
  · exact Reports.pure []

theorem readObject_reports (path : Text) :
    (readObject marker path members).Reports
      (fun shape notice => notice.ConcernsPart (.fragment (.object shape)))
      Failure.IsMisuse := by
  rw [readObject]
  apply Reports.bind (readDeclared_reports reads _ _)
  · intro properties _
    apply Reports.bind_pure (readAt_reports reads _ _)
    rintro described notice ⟨fragment, rfl, concerns⟩
    exact concerns.of_holds (.additional rfl)
  · rintro properties shape ended notice ⟨property, member, concerns⟩
    obtain ⟨described, -, result⟩ := Traced.outcome_bind_eq_ok_iff.mp ended
    cases result
    exact concerns.of_holds (.property member)

end

/-- The notices of reading a value concern nodes of what it is read as. -/
theorem readReports (marker value : Json) : ReadReports marker value := by
  -- Both readings in one induction, since a mapping holds fragments and an object a mapping.
  induction value using Json.induct with
  | other value scalar =>
      constructor
      · intro path
        cases value with
        | object members => cases scalar
        | _ =>
            rw [readFragment]
            · exact Reports.fail ⟨_, rfl⟩
            · rintro _ ⟨⟩
      · intro path required
        cases value with
        | object members => cases scalar
        | _ =>
            rw [readMapping]
            · split
              · exact Reports.fail ⟨_, rfl⟩
              · exact Reports.pure []
            · rintro _ ⟨⟩
  | object members reads =>
      constructor
      · intro path
        rw [readFragment]
        apply Reports.ofExcept_bind fun _ => checked_misuse
        intro form _
        cases form with
        | reference target => exact Reports.pure _
        | typeList types => exact Reports.pure _
        | array =>
            apply Reports.bind_pure (readAt_reports reads _ _)
            rintro items notice ⟨fragment, rfl, concerns⟩
            exact concerns.of_holds .items
        | object =>
            have inline : (Fragment.object <$> readObject marker path members).Reports
                (fun fragment notice => notice.ConcernsPart (.fragment fragment))
                Failure.IsMisuse :=
              (readObject_reports reads path).map fun _ _ concerns => concerns
            simpa [readObject] using inline
        | enumeration values isOpen =>
            apply Reports.bind_pure (readEnumeration_reports _ _ _ _)
            exact fun enumeration notice concerns => concerns
        | primitive typeName => exact Reports.pure _
      · intro path required
        rw [readMapping]
        exact readProperties_reports reads path required

/-! ## Definitions -/

section

variable {path : Text} {members : List (Text × Json)}

theorem readObject_reports_any (path : Text) (members : List (Text × Json)) :
    (readObject marker path members).Reports
      (fun shape notice => notice.ConcernsPart (.fragment (.object shape)))
      Failure.IsMisuse :=
  readObject_reports (fun member _ => readReports marker member.2) path

theorem readPart_reports (path : Text) (member : Json) :
    (readPart marker path member).Reports
      (fun part notice => ∃ shape, part = .extension shape ∧
        notice.ConcernsPart (.fragment (.object shape))) Failure.IsMisuse := by
  unfold readPart
  apply Reports.ofExcept_bind fun _ => checked_misuse
  intro refers _
  split
  · split
    · exact Reports.pure _
    · exact Reports.fail ⟨_, rfl⟩
  · apply Reports.ofExcept_bind fun _ => checked_misuse
    intro members _
    apply Reports.bind_pure (readObject_reports_any path members)
    exact fun shape notice concerns => ⟨shape, rfl, concerns⟩

theorem readParts_reports (path : Text) (position : Nat) (listed : List Json) :
    (readParts marker path position listed).Reports
      (fun parts notice => ∃ shape, Part.extension shape ∈ parts ∧
        notice.ConcernsPart (.fragment (.object shape))) Failure.IsMisuse := by
  induction listed generalizing position with
  | nil => exact Reports.pure []
  | cons member listed ih =>
      rw [readParts]
      apply Reports.bind (readPart_reports _ _)
      · intro part _
        apply Reports.bind_pure (ih _)
        rintro parts notice ⟨shape, among, concerns⟩
        exact ⟨shape, List.mem_cons_of_mem _ among, concerns⟩
      · rintro part whole ended notice ⟨shape, rfl, concerns⟩
        obtain ⟨parts, -, result⟩ := Traced.outcome_bind_eq_ok_iff.mp ended
        cases result
        exact ⟨shape, List.mem_cons_self, concerns⟩

/-- An objection to the body of a definition is that there are several inline objects. -/
def BodyFailure (name path : Text) (members : List (Text × Json)) (failure : Failure) : Prop :=
  ∀ error, failure = .resolution error →
    error = ⟨.severalInlineObjects, name, path⟩ ∧ 1 < (inlineObjects members).length

theorem BodyFailure.of_isMisuse {name : Text} {failure : Failure} (misused : failure.IsMisuse) :
    BodyFailure name path members failure := by
  obtain ⟨misuse, rfl⟩ := misused
  exact nofun

theorem readComposition_reports {name : Text} {composed : Json}
    (found : lookup "allOf" members = some composed) :
    (readComposition marker name path members composed).Reports
      (fun fragment notice => notice.ConcernsPart (.fragment fragment))
      (BodyFailure name path members) := by
  rw [readComposition]
  apply Reports.ofExcept_bind fun _ ended => .of_isMisuse (checked_misuse ended)
  intro listed items
  apply Reports.bind ((readParts_reports path 0 listed).mono (fun _ _ => id)
    fun _ => .of_isMisuse)
  · intro parts ended
    split
    · exact Reports.pure _
    · exact Reports.pure _
    · rename_i notNone notOne
      refine Reports.fail ?_
      rintro error ⟨⟩
      have each := extensions_of_readParts ended
      have objects : inlineObjects members = listed.filterMap inlineMembers? := by
        simp only [inlineObjects, found, mapError_eq_ok_iff.mp items]
        rfl
      refine ⟨rfl, ?_⟩
      rw [objects, each.length_eq]
      rcases extensions : parts.filterMap Part.extension? with _ | ⟨shape, _ | ⟨other, others⟩⟩
      · exact absurd extensions notNone
      · exact absurd extensions (notOne shape)
      · simp
  · rintro parts fragment ended notice ⟨shape, among, concerns⟩
    have member : shape ∈ parts.filterMap Part.extension? :=
      List.mem_filterMap.mpr ⟨_, among, rfl⟩
    split at ended
    · rename_i none
      rw [none] at member
      cases member
    · rename_i extension only
      rw [only, List.mem_singleton] at member
      subst member
      cases ended
      exact concerns.of_holds .extension
    · cases ended

theorem readBody_reports (name path : Text) (members : List (Text × Json)) :
    (readBody marker name path members).Reports
      (fun fragment notice => notice.ConcernsPart (.fragment fragment))
      (BodyFailure name path members) := by
  rw [readBody]
  split
  · rename_i composed found
    exact readComposition_reports found
  · have listed (values : Json) (isOpen : Bool) :
        (readEnumeration members values path isOpen >>= fun enumeration =>
          Pure.pure (Fragment.enumeration enumeration)).Reports
          (fun fragment notice => notice.ConcernsPart (.fragment fragment))
          (BodyFailure name path members) :=
      ((readEnumeration_reports members values path isOpen).mono (fun _ _ => id)
        fun _ => .of_isMisuse).bind_pure fun _ _ => id
    split
    · exact listed _ false
    · apply Reports.ofExcept_bind fun _ ended => .of_isMisuse (checked_misuse ended)
      intro marked _
      split
      · exact listed _ true
      · exact ((readObject_reports_any path members).mono (fun _ _ => id)
          fun _ => .of_isMisuse).bind_pure fun _ _ => id

end

/-- An objection to the entries of a document is one to the body of a definition. -/
def EntriesFailure (entries : List (Text × Json)) (failure : Failure) : Prop :=
  ∀ error, failure = .resolution error → ∃ name members, (name, .object members) ∈ entries ∧
    error = ⟨.severalInlineObjects, name, definitionPath name⟩ ∧
    1 < (inlineObjects members).length

theorem EntriesFailure.cons {entries : List (Text × Json)} {failure : Failure}
    (refused : EntriesFailure entries failure) (entry : Text × Json) :
    EntriesFailure (entry :: entries) failure := by
  intro error same
  obtain ⟨name, members, among, body⟩ := refused error same
  exact ⟨name, members, List.mem_cons_of_mem _ among, body⟩

theorem EntriesFailure.of_isMisuse {entries : List (Text × Json)} {failure : Failure}
    (misused : failure.IsMisuse) : EntriesFailure entries failure := by
  obtain ⟨misuse, rfl⟩ := misused
  exact nofun

theorem readDefinitions_reports (entries : List (Text × Json)) :
    (readDefinitions marker entries).Reports
      (fun definitions notice => ∃ definition ∈ definitions,
        notice.ConcernsPart (.definition definition)) (EntriesFailure entries) := by
  induction entries with
  | nil => exact Reports.pure []
  | cons entry entries ih =>
      obtain ⟨name, value⟩ := entry
      have later := ih.mono (fun _ _ => id) fun _ refused => refused.cons (name, value)
      rw [readDefinitions]
      split
      · exact later
      · apply Reports.ofExcept_bind fun _ ended => .of_isMisuse (checked_misuse ended)
        intro members taken
        apply Reports.bind ((readBody_reports name (definitionPath name) members).mono
          (fun _ _ => id) ?_)
        · intro body _
          apply later.bind_pure
          rintro others notice ⟨definition, member, concerns⟩
          exact ⟨definition, List.mem_cons_of_mem _ member, concerns⟩
        · rintro body definitions ended notice concerns
          obtain ⟨others, -, result⟩ := Traced.outcome_bind_eq_ok_iff.mp ended
          cases result
          exact ⟨_, List.mem_cons_self, concerns.of_holds (.body rfl)⟩
        · intro failure refused error same
          cases value with
          | object own =>
              cases taken
              exact ⟨name, _, List.mem_cons_self, refused error same⟩
          | _ => cases taken

/-- An objection to a definition of a document, which has several inline objects. -/
inductive RefusedAt (document : Json) : ResolutionError → Prop where
  | severalInlineObjects {name : Text} {members : List (Text × Json)}
      (reached : Route.target? ⟨name, []⟩ document = some (.object members))
      (several : 1 < (inlineObjects members).length) :
      RefusedAt document ⟨.severalInlineObjects, name, Route.path ⟨name, []⟩⟩

/-- What reading a document reports: notices that concern a node of the definitions and show
its path, and an objection to a definition with several inline objects. -/
theorem read_reports (marker : Json) {document : Json} (distinct : document.DistinctKeys) :
    (read marker document).Reports
      (fun definitions notice => notice.Placed definitions)
      fun failure => ∀ error, failure = .resolution error → RefusedAt document error := by
  have spared {failure : Failure} (misused : failure.IsMisuse) (error : ResolutionError) :
      failure ≠ .resolution error := by
    obtain ⟨misuse, rfl⟩ := misused
    rintro ⟨⟩
  rw [read]
  apply Reports.ofExcept_bind fun _ ended error same =>
    absurd same (spared (checked_misuse ended) error)
  intro members held
  apply Reports.ofExcept_bind fun _ ended error same =>
    absurd same (spared (checked_misuse ended) error)
  intro entries found
  apply Reports.bind ((readDefinitions_reports entries).mono (fun _ _ => id) ?_)
  · intro definitions _
    have counted {error : Failure → Prop} :
        (Traced.note (.definitionsRead definitions.length) : Processing Unit).Reports
          (fun _ notice => notice.schemaPath? = none) error :=
      ⟨fun _ _ => List.forall_mem_singleton.mpr rfl, by rintro _ ⟨⟩⟩
    apply counted.bind_pure
    exact fun _ _ => .of_none
  · rintro definitions result ended notice ⟨definition, member, node, within, concerns⟩ path shown
    obtain ⟨_, -, same⟩ := Traced.outcome_bind_eq_ok_iff.mp ended
    cases same
    rw [concerns.path] at shown
    exact ⟨node, ⟨definition, member, within⟩, Option.some.inj shown, concerns⟩
  · intro failure refused error same
    obtain ⟨name, inner, among, rfl, several⟩ := refused error same
    rw [← Route.path_definition]
    exact .severalInlineObjects (target?_of_mem distinct (mapError_eq_ok_iff.mp held)
      (mapError_eq_ok_iff.mp found) among) several

end Schema

end ProtocolBindings
