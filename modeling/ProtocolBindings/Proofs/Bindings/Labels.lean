import ProtocolBindings.Proofs.Bindings.Literals
import ProtocolBindings.Proofs.Bindings.MemberNames

/-!
# Labels of constants

Each value of an enumeration has a constant in its class, whose label is the identifier for
the label of the value.  Where that label is used, underscores are added until it is not, and
the label so found counts as used for the values behind.  Labels are compared as they are
written, and not in the normal form in which the language takes them.
-/

namespace ProtocolBindings.Bindings

open Grammar (readLiteral)
open Model

/-! ## One label -/

/-- The search for a label that is not used ends with a label. -/
inductive Settles (used : List Text) : (label settled : Text) → Prop where
  | unused {label : Text} : label ∉ used → Settles used label label
  | again {label settled : Text} :
      label ∈ used →
      Settles used (label ++ [underscore]) settled →
      Settles used label settled

namespace Settles

variable {used : List Text} {label settled other : Text}

theorem not_mem (settles : Settles used label settled) : settled ∉ used := by
  induction settles with
  | unused fresh => exact fresh
  | again _ _ ih => exact ih

theorem exists_marks (settles : Settles used label settled) :
    ∃ marks, settled = label ++ List.replicate marks underscore := by
  induction settles with
  | unused _ => exact ⟨0, (List.append_nil _).symm⟩
  | @again label settled _ _ ih =>
      obtain ⟨marks, rfl⟩ := ih
      exact ⟨marks + 1, by rw [List.append_assoc, List.replicate_succ, List.singleton_append]⟩

theorem unique (settles : Settles used label settled) (also : Settles used label other) :
    settled = other := by
  induction settles with
  | unused fresh =>
      cases also with
      | unused _ => rfl
      | again taken _ => exact absurd taken fresh
  | again taken _ ih =>
      cases also with
      | unused fresh => exact absurd taken fresh
      | again _ later => exact ih later

end Settles

/-- The labels that can still be met with: those that are used and are not shorter. -/
def obstacles (used : List Text) (label : Text) : Nat :=
  used.countP fun other => label.length ≤ other.length

/-- A used label is behind the search once it has an underscore more. -/
theorem obstacles_lt {used : List Text} {label : Text} (taken : label ∈ used) :
    obstacles used (label ++ [underscore]) < obstacles used label := by
  obtain ⟨before, after, rfl⟩ := List.append_of_mem taken
  have fewer (others : List Text) :
      obstacles others (label ++ [underscore]) ≤ obstacles others label := by
    refine List.countP_mono_left fun other _ longer => ?_
    simp only [List.length_append, List.length_singleton, decide_eq_true_eq] at longer ⊢
    omega
  have behind : obstacles [label] (label ++ [underscore]) < obstacles [label] label := by
    simp [obstacles]
  have split (given : Text) : obstacles (before ++ label :: after) given =
      obstacles before given + obstacles [label] given + obstacles after given := by
    rw [obstacles, List.countP_append, ← List.singleton_append, List.countP_append, ← Nat.add_assoc]
    rfl
  rw [split, split]
  have := fewer before
  have := fewer after
  omega

/-- With a round for each obstacle the search comes to its end. -/
theorem settles_freshLabel {used : List Text} {rounds : Nat} {label : Text}
    (enough : obstacles used label ≤ rounds) :
    Settles used label (freshLabel used rounds label) := by
  induction rounds generalizing label with
  | zero =>
      refine .unused fun taken => ?_
      have fewer := obstacles_lt taken
      omega
  | succ rounds ih =>
      rw [freshLabel]
      split
      · rename_i taken
        have taken := List.contains_iff_mem.mp taken
        have fewer := obstacles_lt taken
        exact .again taken (ih (by omega))
      · rename_i fresh
        exact .unused fun taken => fresh (List.contains_iff_mem.mpr taken)

/-! ## Labels in their order -/

/-- The search for the labels of values, one after another, ends with labels. -/
inductive SettlesAll : (used : List Text) → List EnumMember → List Text → Prop where
  | nil {used : List Text} : SettlesAll used [] []
  | cons {used : List Text} {member : EnumMember} {members : List EnumMember} {label : Text}
      {labels : List Text} :
      Settles used (identifier member.label) label →
      SettlesAll (label :: used) members labels →
      SettlesAll used (member :: members) (label :: labels)

theorem settlesAll_freshLabels (used : List Text) (members : List EnumMember) :
    SettlesAll used members (freshLabels used members) := by
  induction members generalizing used with
  | nil => exact .nil
  | cons member members ih =>
      exact .cons (settles_freshLabel List.countP_le_length) (ih _)

/-- A label is the identifier of the label that was asked for, with underscores behind it. -/
def Marked (label settled : Text) : Prop :=
  ∃ marks, settled = identifier label ++ List.replicate marks underscore

namespace SettlesAll

variable {used labels others : List Text} {members : List EnumMember}

theorem unique (settles : SettlesAll used members labels)
    (also : SettlesAll used members others) : labels = others := by
  induction settles generalizing others with
  | nil =>
      cases also
      rfl
  | cons first _ ih =>
      cases also with
      | cons found later =>
          cases first.unique found
          rw [ih later]

theorem marks (settles : SettlesAll used members labels) :
    List.Forall₂ (fun label member => Marked member.label label) labels members := by
  induction settles with
  | nil => exact .nil
  | cons first _ ih => exact .cons first.exists_marks ih

/-- The labels are distinct from each other and from those that were used before. -/
theorem nodup (settles : SettlesAll used members labels) :
    labels.Nodup ∧ ∀ label ∈ labels, label ∉ used := by
  induction settles with
  | nil => exact ⟨.nil, nofun⟩
  | cons first _ ih =>
      obtain ⟨distinct, apart⟩ := ih
      constructor
      · rw [List.nodup_cons]
        exact ⟨fun again => apart _ again List.mem_cons_self, distinct⟩
      · intro label inside earlier
        rcases List.mem_cons.mp inside with rfl | own
        · exact first.not_mem earlier
        · exact apart label own (List.mem_cons_of_mem _ earlier)

end SettlesAll

namespace Marked

variable {label settled : Text}

theorem not_mem_reservedNames (marks : Marked label settled) : settled ∉ reservedNames := by
  obtain ⟨marks, rfl⟩ := marks
  cases marks with
  | zero =>
      rw [List.replicate_zero, List.append_nil]
      exact (spells_spell (wordCharacters label)).unreserved.1
  | succ marks => exact not_mem_of_underscore (by simp)

theorem wordsOnly (marks : Marked label settled) : WordsOnly settled := by
  obtain ⟨marks, rfl⟩ := marks
  refine (wordsOnly_identifier label).append fun symbol member => ?_
  rw [List.eq_of_mem_replicate member]
  decide

theorem ne_nil (marks : Marked label settled) : settled ≠ [] := by
  obtain ⟨marks, rfl⟩ := marks
  exact List.append_ne_nil_of_left_ne_nil (identifier_ne_nil label) _

end Marked

/-! ## Constants -/

/-- The name, as it is written, and the value of the constant that a line declares. -/
def constant? (line : Text) : Option (Text × Text) := do
  let name ← fieldName? line
  let literal ← Text.afterStart? (valueOpening name) line
  let (value, rest) ← readLiteral false literal
  if rest.isEmpty then some (name, value) else none

theorem constant?_line {label settled : Text} (marks : Marked label settled) (value : Text) :
    constant? (valueOpening settled ++ textLiteral value) =
      some (settled, value.flatMap unitwise) := by
  have named : fieldName? (valueOpening settled ++ textLiteral value) = some settled := by
    have line : valueOpening settled ++ textLiteral value = Text.ofString "    " ++
        (settled ++ .char ' ' :: (Text.ofString "= " ++ textLiteral value)) := by
      simp only [valueOpening, List.append_assoc]
      rfl
    rw [line]
    exact wordBehind?_append _ _ marks.wordsOnly marks.ne_nil (by decide)
  have read := readLiteral_textLiteral value []
  rw [List.append_nil] at read
  rw [constant?, named]
  simp [Grammar.Denotes.afterStart?_append, read]

/-- The lines of a value: those of its description, and the constant. -/
def ConstantLines (pair : Text × EnumMember) (own : List Text) : Prop :=
  ∃ remarks, comments "    " pair.2.description = .ok remarks ∧
    own = remarks ++ [valueOpening pair.1 ++ textLiteral pair.2.value]

theorem memberLines_ok_iff {pair : Text × EnumMember} {own : List Text} :
    memberLines pair.1 pair.2 = .ok own ↔ ConstantLines pair own := by
  rw [memberLines, bind_eq_ok_iff]
  refine exists_congr fun remarks => and_congr_right fun _ => ⟨fun joined => ?_, ?_⟩
  · cases joined
    rfl
  · rintro rfl
    rfl

/-- The lines of a value declare its constant and nothing else. -/
theorem constants_constantLines {pair : Text × EnumMember} {own : List Text}
    (marks : Marked pair.2.label pair.1) (written : ConstantLines pair own) :
    own.filterMap constant? = [(pair.1, pair.2.value.flatMap unitwise)] := by
  obtain ⟨remarks, described, rfl⟩ := written
  have none_of_remark : remarks.filterMap constant? = [] := by
    have unnamed := List.filterMap_eq_nil_iff.mp (fieldName?_comments described)
    refine List.filterMap_eq_nil_iff.mpr fun line member => ?_
    rw [constant?, unnamed line member]
    rfl
  rw [List.filterMap_append, none_of_remark, List.nil_append,
    List.filterMap_cons_some (constant?_line marks _), List.filterMap_nil]

/-! ## Classes -/

/-- The lines in the class of an enumeration that declare its constants under some labels. -/
structure DeclaresConstants (enumType : EnumType) (labels lines declarations : List Text) :
    Prop where
  body : ∃ described, quotedLines "    " enumType.description = .ok described ∧
    enumLines enumType described declarations = lines
  /-- Each value has the lines of its description and its constant. -/
  blocks : ∃ blocks, List.Forall₂ ConstantLines (labels.zip enumType.members) blocks ∧
    declarations = blocks.flatten
  /-- The constants are read in the order of the values, and nothing else is read. -/
  constants : declarations.filterMap constant? =
    labels.zip (enumType.members.map fun member => member.value.flatMap unitwise)

/-- Labels that tell the values of an enumeration apart. -/
structure TellsApart (members : List EnumMember) (labels : List Text) : Prop where
  /-- The search for each label ends, and the labels of the values before it are used. -/
  settled : ∀ {others}, SettlesAll [] members others ↔ others = labels
  marked : List.Forall₂ (fun label member => Marked member.label label) labels members
  distinct : labels.Nodup
  unreserved : ∀ label ∈ labels, label ∉ reservedNames

theorem tellsApart_freshLabels (members : List EnumMember) :
    TellsApart members (freshLabels [] members) := by
  have settled := settlesAll_freshLabels [] members
  constructor
  case settled =>
    intro others
    constructor
    · exact fun also => also.unique settled
    · rintro rfl
      exact settled
  case marked => exact settled.marks
  case distinct => exact settled.nodup.1
  case unreserved =>
    intro label own
    obtain ⟨member, marks, -⟩ := exists_zip_of_forall₂ settled.marks label own
    exact Marked.not_mem_reservedNames marks

/-- A label that was told apart from another can be the one that a later value asks for. -/
example :
    let member (value label : Text) : EnumMember := ⟨value, label, .null, true⟩
    freshLabels [] [member "a b" "A_B", member "a_b" "A_B", member "a_b_" "A_B_"] =
      [Text.ofString "A_B", "A_B_", "A_B__"] := by
  decide +kernel

/-- The values of any enumeration have labels that are written differently, and where its class is
rendered, as it is if the descriptions are texts or missing, the constants in it have these
labels. -/
theorem labels_of_enumClass (enumType : EnumType) :
    ∃ labels, TellsApart enumType.members labels ∧
      (∀ lines, (enumClass enumType).outcome = .ok lines →
        ∃ declarations, DeclaresConstants enumType labels lines declarations) ∧
      (Entity.Described (.enumType enumType) →
        ∃ lines, (enumClass enumType).outcome = .ok lines) := by
  have apart := tellsApart_freshLabels enumType.members
  refine ⟨_, apart, ?_, ?_⟩
  · intro lines rendered
    obtain ⟨described, declarations, quoted, written, rfl⟩ := enumClass_ok_iff.mp rendered
    obtain ⟨blocks, drawn, rfl⟩ := concatenates_membersLines.ok_iff.mp written
    have each := List.Forall₂.imp (fun _ _ => memberLines_ok_iff.mp) drawn
    have marked : ∀ pair ∈ (freshLabels [] enumType.members).zip enumType.members,
        Marked pair.2.label pair.1 := fun _ own => List.forall₂_zip apart.marked own
    have read := ((List.forall₂_and_left _ _).mpr ⟨marked, each⟩).imp
      fun _ _ both => constants_constantLines both.1 both.2
    refine ⟨_, ⟨described, quoted, rfl⟩, ⟨blocks, each, rfl⟩, ?_⟩
    rw [filterMap_flatten_of_forall₂ read, List.zip_map_right]
    rfl
  · intro described
    obtain ⟨lines, ended, -⟩ := (enumClass_succeeds described).exists_ok
    exact ⟨lines, ended⟩

end ProtocolBindings.Bindings
