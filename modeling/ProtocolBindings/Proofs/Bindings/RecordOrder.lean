import Mathlib.Data.List.Perm.Subperm
import Mathlib.Logic.Relation
import ProtocolBindings.Proofs.Bindings.ModuleNames

/-!
# Bases before their subclasses

The search for the base of a record follows the bases until it meets a record that is in
order or one that it comes from.  The latter happens on cycles only, so that a record that
lies on no cycle is put in order after its base.
-/

namespace ProtocolBindings.Bindings

open Model
open Relation (TransGen)

/-! ## The search -/

/-- A search that comes to a record goes no further. -/
def IsMet (appending : List Text) (ordered : List Record) (record : Record) : Prop :=
  record.name ∈ ordered.map Record.name ∨ record.name ∈ appending

/-- What is in order after the search for a record, however far it goes. -/
inductive Appends (records : List Record) :
    List Text → List Record → Record → List Record → Prop where
  | met {appending : List Text} {ordered : List Record} {record : Record} :
      IsMet appending ordered record →
      Appends records appending ordered record ordered
  | root {appending : List Text} {ordered : List Record} {record : Record} :
      ¬ IsMet appending ordered record →
      baseRecord? records record = none →
      Appends records appending ordered record (ordered ++ [record])
  | based {appending : List Text} {ordered after : List Record} {record base : Record} :
      ¬ IsMet appending ordered record →
      baseRecord? records record = some base →
      Appends records (record.name :: appending) ordered base after →
      Appends records appending ordered record (after ++ [record])

/-- What is in order after the searches for some records, one after another. -/
inductive AppendsAll (records : List Record) :
    List Record → List Record → List Record → Prop where
  | nil {ordered : List Record} : AppendsAll records [] ordered ordered
  | cons {record : Record} {rest ordered after result : List Record} :
      Appends records [] ordered record after →
      AppendsAll records rest after result →
      AppendsAll records (record :: rest) ordered result

section

variable {records rest ordered after other : List Record} {record : Record}
variable {appending : List Text}

theorem Appends.unique (search : Appends records appending ordered record after)
    (again : Appends records appending ordered record other) : after = other := by
  induction search generalizing other with
  | met isMet =>
      cases again with
      | met => rfl
      | root fresh => exact absurd isMet fresh
      | based fresh => exact absurd isMet fresh
  | root fresh missing =>
      cases again with
      | met isMet => exact absurd isMet fresh
      | root => rfl
      | based _ found => simp [missing] at found
  | based fresh found _ ih =>
      cases again with
      | met isMet => exact absurd isMet fresh
      | root _ missing => simp [missing] at found
      | based _ also later =>
          rw [found] at also
          cases also
          rw [ih later]

theorem baseRecord?_mem {base : Record} (found : baseRecord? records record = some base) :
    base ∈ records :=
  List.mem_reverse.mp (List.mem_of_find?_eq_some found)

/-- The search ends within the rounds that are granted, as the names that it comes from are
distinct names of records. -/
theorem appends_appendRecord {rounds : Nat} (distinct : appending.Nodup)
    (named : appending ⊆ records.map Record.name) (member : record ∈ records)
    (enough : records.length < rounds + appending.length) :
    Appends records appending ordered record
      (appendRecord records rounds appending ordered record) := by
  induction rounds generalizing appending ordered record with
  | zero =>
      have bound := (distinct.subperm named).length_le
      rw [List.length_map] at bound
      omega
  | succ rounds ih =>
      rw [appendRecord]
      split
      · rename_i seen
        apply Appends.met
        simpa [IsMet] using seen
      · rename_i unseen
        have fresh : ¬ IsMet appending ordered record := by simpa [IsMet] using unseen
        cases found : baseRecord? records record with
        | none => exact .root fresh found
        | some base =>
            apply Appends.based fresh found
            apply ih
            · exact List.nodup_cons.mpr ⟨fun among => fresh (.inr among), distinct⟩
            · exact List.cons_subset.mpr ⟨List.mem_map_of_mem member, named⟩
            · exact baseRecord?_mem found
            · rw [List.length_cons]
              omega

theorem appendsAll_iff (members : ∀ record ∈ rest, record ∈ records) :
    AppendsAll records rest ordered after ↔
      after = rest.foldl (appendRecord records (records.length + 1) []) ordered := by
  induction rest generalizing ordered with
  | nil =>
      constructor
      · intro run
        cases run
        rfl
      · intro same
        rw [same]
        exact .nil
  | cons record rest ih =>
      obtain ⟨member, later⟩ := List.forall_mem_cons.mp members
      have ends : Appends records [] ordered record
          (appendRecord records (records.length + 1) [] ordered record) :=
        appends_appendRecord .nil (List.nil_subset _) member (by simp)
      rw [List.foldl_cons, ← ih later]
      constructor
      · intro run
        cases run with
        | cons search run =>
            rw [ends.unique search]
            exact run
      · intro run
        exact .cons ends run

/-- The searches end, and what is in order afterwards are the ordered records. -/
theorem appendsAll_iff_eq_orderRecords :
    AppendsAll records records [] ordered ↔ ordered = orderRecords records :=
  appendsAll_iff fun _ member => member

end

/-! ## Bases -/

/-- One of some records is the base of another one. -/
def HasBase (records : List Record) (record base : Record) : Prop :=
  base ∈ records ∧ record.base = some base.name

/-- The bases of a record lead back to it. -/
def OnCycle (records : List Record) (record : Record) : Prop :=
  TransGen (HasBase records) record record

/-- No two things have the same name, and none is nameless. -/
structure TellApart (names : List Text) : Prop where
  distinct : names.Nodup
  present : ∀ name ∈ names, name ≠ []

theorem TellApart.sublist {names more : List Text} (apart : TellApart more)
    (within : names.Sublist more) : TellApart names :=
  ⟨apart.distinct.sublist within, fun name member => apart.present name (within.mem member)⟩

/-- One record stands before another one. -/
def Precedes (ordered : List Record) (first second : Record) : Prop :=
  ∃ before after, ordered = before ++ second :: after ∧ first ∈ before

/-- Some of the records, each after its base unless it lies on a cycle. -/
structure Arranged (records ordered : List Record) : Prop where
  known : ∀ record ∈ ordered, record ∈ records
  basesFirst : ∀ record ∈ ordered, ∀ base, HasBase records record base →
    ¬ OnCycle records record → Precedes ordered base record

section

variable {records ordered after : List Record} {record base : Record} {appending : List Text}

theorem Precedes.append {first second : Record} (precedes : Precedes ordered first second)
    (later : List Record) : Precedes (ordered ++ later) first second := by
  obtain ⟨before, after, rfl, among⟩ := precedes
  exact ⟨before, after ++ later, by simp, among⟩

theorem Arranged.nil : Arranged records [] :=
  ⟨nofun, nofun⟩

theorem Arranged.concat (arranged : Arranged records ordered) (member : record ∈ records)
    (based : ∀ base, HasBase records record base → ¬ OnCycle records record → base ∈ ordered) :
    Arranged records (ordered ++ [record]) := by
  constructor
  · exact List.forall_mem_append.mpr
      ⟨arranged.known, List.forall_mem_singleton.mpr member⟩
  · intro other among base has free
    rcases List.mem_append.mp among with earlier | last
    · exact (arranged.basesFirst other earlier base has free).append [record]
    · rw [List.mem_singleton.mp last] at has free ⊢
      exact ⟨ordered, [], rfl, based base has free⟩

variable (named : TellApart (records.map Record.name))

include named

theorem eq_of_name_eq {first second : Record} (one : first ∈ records) (two : second ∈ records)
    (same : first.name = second.name) : first = second :=
  List.inj_on_of_nodup_map named.distinct one two same

/-- A record is found by its name if another one extends it. -/
theorem baseRecord?_eq_some_iff :
    baseRecord? records record = some base ↔ HasBase records record base := by
  rw [baseRecord?, recordOfName?]
  constructor
  · intro found
    have member := List.mem_reverse.mp (List.mem_of_find?_eq_some found)
    have same : base.name = record.base.getD "" := by simpa using List.find?_some found
    refine ⟨member, ?_⟩
    cases extended : record.base with
    | none =>
        rw [extended] at same
        exact absurd same (named.present _ (List.mem_map_of_mem member))
    | some name => rw [same, extended, Option.getD_some]
  · rintro ⟨member, extended⟩
    rw [extended, Option.getD_some]
    cases found : records.reverse.find? fun other => other.name = base.name with
    | none =>
        have missing := List.find?_eq_none.mp found base (List.mem_reverse.mpr member)
        simp at missing
    | some other =>
        have among := List.mem_reverse.mp (List.mem_of_find?_eq_some found)
        have same : other.name = base.name := by simpa using List.find?_some found
        rw [eq_of_name_eq named among member same]

theorem baseRecord?_eq_none_iff :
    baseRecord? records record = none ↔ ∀ base, ¬ HasBase records record base := by
  rw [Option.eq_none_iff_forall_ne_some]
  exact forall_congr' fun base => not_congr (baseRecord?_eq_some_iff named)

/-- Every search keeps the records arranged.  The names that a search comes from belong to
records that have its record among their bases, so that it meets one of them on a cycle
only. -/
theorem Appends.arranged (search : Appends records appending ordered record after)
    (member : record ∈ records)
    (chain : ∀ name ∈ appending, ∃ above ∈ records, above.name = name ∧
      TransGen (HasBase records) above record)
    (before : Arranged records ordered) :
    Arranged records after ∧ (record ∈ after ∨ record.name ∈ appending) := by
  induction search with
  | @met appending ordered record isMet =>
      refine ⟨before, ?_⟩
      rcases isMet with inOrder | among
      · obtain ⟨other, present, same⟩ := List.mem_map.mp inOrder
        rw [← eq_of_name_eq named (before.known other present) member same]
        exact .inl present
      · exact .inr among
  | root fresh missing =>
      have rootless := (baseRecord?_eq_none_iff named).mp missing
      refine ⟨before.concat member fun base has => absurd has (rootless base), ?_⟩
      simp
  | @based appending ordered after record base fresh found _ ih =>
      have has := (baseRecord?_eq_some_iff named).mp found
      have longer : ∀ name ∈ record.name :: appending, ∃ above ∈ records,
          above.name = name ∧ TransGen (HasBase records) above base := by
        refine List.forall_mem_cons.mpr ⟨⟨record, member, rfl, .single has⟩, ?_⟩
        intro name among
        obtain ⟨above, known, same, reaches⟩ := chain name among
        exact ⟨above, known, same, reaches.tail has⟩
      obtain ⟨arranged, met⟩ := ih has.1 longer before
      refine ⟨arranged.concat member fun other also free => ?_, by simp⟩
      have one : other = base := by
        apply eq_of_name_eq named also.1 has.1
        simpa [has.2] using also.2.symm
      rw [one]
      rcases met with inOrder | among
      · exact inOrder
      · -- The search comes from the base, so that the bases of the record lead back to it.
        apply absurd _ free
        rcases List.mem_cons.mp among with own | among
        · have itself := eq_of_name_eq named has.1 member own
          rw [itself] at has
          exact .single has
        · obtain ⟨above, known, same, reaches⟩ := chain base.name among
          rw [eq_of_name_eq named known has.1 same] at reaches
          exact .head has reaches

theorem AppendsAll.arranged {rest result : List Record}
    (run : AppendsAll records rest ordered result) (members : ∀ record ∈ rest, record ∈ records)
    (before : Arranged records ordered) : Arranged records result := by
  induction run with
  | nil => exact before
  | cons search _ ih =>
      obtain ⟨member, later⟩ := List.forall_mem_cons.mp members
      exact ih later (search.arranged named member nofun before).1

/-- Where bases stand before their subclasses already, every search ends at once. -/
theorem appendsAll_of_precedes {rest : List Record}
    (sorted : ∀ record ∈ records, ∀ base, HasBase records record base →
      Precedes records base record)
    (whole : records = ordered ++ rest) : AppendsAll records rest ordered records := by
  induction rest generalizing ordered with
  | nil =>
      rw [List.append_nil] at whole
      rw [whole]
      exact .nil
  | cons record rest ih =>
      have once : (ordered ++ record :: rest).Nodup := whole ▸ named.distinct.of_map
      have fresh : ¬ IsMet [] ordered record := by
        have names := named.distinct
        rw [whole, List.map_append, List.map_cons, List.nodup_append] at names
        rintro (inOrder | among)
        · exact names.2.2 _ inOrder _ List.mem_cons_self rfl
        · cases among
      have search : Appends records [] ordered record (ordered ++ [record]) := by
        cases found : baseRecord? records record with
        | none => exact .root fresh found
        | some base =>
            obtain ⟨before, after, split, among⟩ :=
              sorted record (by simp [whole]) base ((baseRecord?_eq_some_iff named).mp found)
            -- The record stands at one place only, so that its base is in order already.
            have apart := (List.nodup_cons.mp (List.nodup_middle.mp once)).1
            rw [List.mem_append, not_or] at apart
            rw [whole, List.append_cons_inj_of_notMem apart.1 apart.2] at split
            rw [← split.1] at among
            exact .based fresh found (.met (.inl (List.mem_map_of_mem among)))
      exact .cons search (ih (by simp [whole]))

end

/-- Records in the order that the search for their bases leads to. -/
structure OrdersRecords (records ordered : List Record) : Prop where
  ends : ∀ result, AppendsAll records records [] result ↔ result = ordered
  rearranged : ordered.Perm records
  basesFirst : ∀ record ∈ records, ∀ base, HasBase records record base →
    ¬ OnCycle records record → Precedes ordered base record
  kept : (∀ record ∈ records, ∀ base, HasBase records record base →
    Precedes records base record) → ordered = records

/-- Records with names of their own are put in order, whatever their bases are. -/
theorem ordersRecords_of_tellApart {records : List Record}
    (named : TellApart (records.map Record.name)) :
    OrdersRecords records (orderRecords records) := by
  have run : AppendsAll records records [] (orderRecords records) :=
    appendsAll_iff_eq_orderRecords.mpr rfl
  have rearranged := orderRecords_perm named.distinct
  have arranged := run.arranged named (fun _ member => member) .nil
  constructor
  · exact fun _ => appendsAll_iff_eq_orderRecords
  · exact rearranged
  · intro record member
    exact arranged.basesFirst record (rearranged.mem_iff.mpr member)
  · intro sorted
    have unchanged := appendsAll_of_precedes named sorted (List.nil_append records).symm
    exact (appendsAll_iff_eq_orderRecords.mp unchanged).symm

/-! ## The classes of a model -/

/-- The first line of the class of an entity. -/
def entityHead : Entity → Text
  | .record content => recordHead content
  | .enumType content => enumHead content

/-- The lines of the class of an entity. -/
def entityClass : Entity → Rendering (List Text)
  | .record content => recordClass content
  | .enumType content => enumClass content

/-- The entities of a model in the order of their classes: the closed enumerations, the open
ones, and the records after their bases. -/
def classOrder (model : Model) : List Entity :=
  (model.enumTypes.filter fun enumType => !enumType.isOpen).map .enumType ++
    (model.enumTypes.filter fun enumType => enumType.isOpen).map .enumType ++
    (orderRecords model.records).map .record

/-- The code of a model has one class for each entity. -/
structure WritesClasses (config : Config) (model : Model) (comment : Text) : Prop where
  once : (classOrder model).Perm model.entities
  written : ∀ code, (moduleText config model comment).outcome = .ok code ↔
    ∃ classes server client,
      List.Forall₂ (fun entity lines => (entityClass entity).outcome = .ok lines ∧
        entityHead entity ∈ lines) (classOrder model) classes ∧
      (interfaceOf config.serverInterfaceName "Requests handled by a debug adapter."
        requestMethod model.requests).outcome = .ok server ∧
      (interfaceOf config.clientInterfaceName "Events sent by a debug adapter to its client."
        eventMethod model.events).outcome = .ok client ∧
      code = endOnce (joinLines
        (headLines comment (modelLines config model).trail model.version ++
          (classes.flatMap spaced ++ server ++ client)))
  renders : model.Renderable → ∃ code, (moduleText config model comment).outcome = .ok code

theorem entityHead_mem {entity : Entity} {lines : List Text}
    (rendered : (entityClass entity).outcome = .ok lines) : entityHead entity ∈ lines := by
  cases entity with
  | record content => exact recordHead_mem rendered
  | enumType content => exact enumHead_mem rendered

section

variable {config : Config} {model : Model} {comment code : Text}

theorem classOrder_perm (distinct : (model.entities.map Entity.name).Nodup) :
    (classOrder model).Perm model.entities := by
  have records := orderRecords_perm (distinct.sublist (names_records_sublist model.entities))
  have enumTypes := (orderEnums_perm model.enumTypes).map Entity.enumType
  rw [orderEnums, List.map_append] at enumTypes
  exact (enumTypes.append (records.map Entity.record)).trans (entities_perm model.entities)

theorem classesOf_map {α β : Type} {render : β → Rendering (List Text)} {view : α → β}
    (parts : List α) :
    classesOf render (parts.map view) = classesOf (fun part => render (view part)) parts := by
  induction parts with
  | nil => rfl
  | cons part parts ih => rw [List.map_cons, classesOf, classesOf, ih]

theorem classesOf_append_ok_iff {α : Type} {render : α → Rendering (List Text)}
    {first second : List α} {lines : List Text} :
    (classesOf render (first ++ second)).outcome = .ok lines ↔
      ∃ before after, (classesOf render first).outcome = .ok before ∧
        (classesOf render second).outcome = .ok after ∧ before ++ after = lines := by
  induction first generalizing lines with
  | nil => simp [classesOf]
  | cons part first ih =>
      simp only [List.cons_append, classesOf, Traced.outcome_bind_eq_ok_iff,
        Traced.outcome_pure, Except.ok.injEq, ih]
      constructor
      · rintro ⟨own, drawn, _, ⟨before, after, front, back, rfl⟩, rfl⟩
        exact ⟨_, after, ⟨own, drawn, before, front, rfl⟩, back, List.append_assoc _ _ _⟩
      · rintro ⟨_, after, ⟨own, drawn, before, front, rfl⟩, back, rfl⟩
        exact ⟨own, drawn, _, ⟨before, after, front, back, rfl⟩, (List.append_assoc _ _ _).symm⟩

/-- The classes of a model are those of its entities in their order. -/
theorem classesOf_classOrder_ok_iff {lines : List Text} :
    (classesOf entityClass (classOrder model)).outcome = .ok lines ↔
      ∃ enumTypes records,
        (classesOf enumClass (orderEnums model.enumTypes)).outcome = .ok enumTypes ∧
        (classesOf recordClass (orderRecords model.records)).outcome = .ok records ∧
        enumTypes ++ records = lines := by
  rw [classOrder, ← List.map_append, classesOf_append_ok_iff, classesOf_map, classesOf_map]
  rfl

/-- The code of a model has one class for each entity, the closed enumerations first and the
records last. -/
theorem writesClasses (distinct : (model.entities.map Entity.name).Nodup) (config : Config)
    (comment : Text) : WritesClasses config model comment := by
  constructor
  · exact classOrder_perm distinct
  · intro code
    rw [moduleText_ok_iff]
    constructor
    · rintro ⟨lines, ended, rfl⟩
      obtain ⟨enumTypes, records, server, client, enums, classes, requests, events, rfl⟩ :=
        modelLines_ok_iff.mp ended
      have drawn := classesOf_classOrder_ok_iff.mpr ⟨enumTypes, records, enums, classes, rfl⟩
      obtain ⟨blocks, each, joined⟩ := classesOf_ok_iff.mp drawn
      refine ⟨blocks, server, client, ?_, requests, events, ?_⟩
      · exact each.imp fun _ _ own => ⟨own, entityHead_mem own⟩
      · rw [joined]
    · rintro ⟨blocks, server, client, each, requests, events, rfl⟩
      have drawn := classesOf_ok_iff.mpr ⟨blocks, each.imp fun _ _ own => own.1, rfl⟩
      obtain ⟨enumTypes, records, enums, classes, joined⟩ := classesOf_classOrder_ok_iff.mp drawn
      refine ⟨_, modelLines_ok_iff.mpr
        ⟨enumTypes, records, server, client, enums, classes, requests, events, rfl⟩, ?_⟩
      rw [joined]
  · intro renderable
    exact moduleText_ok config renderable comment

end

/-- Records are put in order after their bases, and the code of a model has one class for
each entity in the order that follows from it. -/
theorem classes_inOrder :
    (∀ records, TellApart (records.map Record.name) →
      OrdersRecords records (orderRecords records)) ∧
    ∀ config model comment, TellApart (model.entities.map Entity.name) →
      WritesClasses config model comment ∧
        OrdersRecords model.records (orderRecords model.records) := by
  constructor
  · exact fun _ named => ordersRecords_of_tellApart named
  · intro config model comment named
    refine ⟨writesClasses named.distinct config comment, ?_⟩
    exact ordersRecords_of_tellApart (named.sublist (names_records_sublist model.entities))

def bareRecord (name : Text) (base : Option Text) : Record :=
  { name, base, properties := [], description := .null, synthesized := false }

/-- Records of which two are bases of each other, and one extends a type that is not there. -/
def lineage : List Record :=
  [bareRecord "Leaf" (some "Ring"), bareRecord "Ring" (some "Loop"),
    bareRecord "Loop" (some "Ring"), bareRecord "Child" (some "Root"),
    bareRecord "Root" (some "Message")]

def bareEnum (name : Text) (isOpen : Bool) : EnumType :=
  { name, isOpen, members := [], description := .null, synthesized := false }

def lineageModel : Model :=
  { entities := .enumType (bareEnum "Reason" true) :: lineage.map .record ++
      [.enumType (bareEnum "Group" false)] }

theorem classes_inOrder_lineage :
    TellApart (lineage.map Record.name) ∧
      (orderRecords lineage).map Record.name =
        [Text.ofString "Loop", "Ring", "Leaf", "Root", "Child"] ∧
      OrdersRecords lineage (orderRecords lineage) ∧
      TellApart (lineageModel.entities.map Entity.name) ∧
      (classOrder lineageModel).map Entity.name =
        [Text.ofString "Group", "Reason", "Loop", "Ring", "Leaf", "Root", "Child"] ∧
      WritesClasses {} lineageModel "" ∧
      OrdersRecords lineageModel.records (orderRecords lineageModel.records) := by
  have named : TellApart (lineage.map Record.name) := ⟨by decide, by decide⟩
  have told : TellApart (lineageModel.entities.map Entity.name) := ⟨by decide, by decide⟩
  exact ⟨named, by decide +kernel, classes_inOrder.1 lineage named, told, by decide +kernel,
    classes_inOrder.2 {} lineageModel "" told⟩

end ProtocolBindings.Bindings
