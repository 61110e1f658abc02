import ProtocolBindings.Proofs.Bindings.Remarks
import ProtocolBindings.Proofs.Model.Renderable

/-!
# Descriptions in generated code

Descriptions, and the comment in front of a module, reach generated code as remarks and
in no other way: without them the lines of code are the same, and each remark is made of
the lines of its description.
-/

namespace ProtocolBindings.Bindings

open Json (IsRemark)
open Model
open Text (SingleLine physicalLines)
open Traced (EndsAlike Related)

/-! ## Lines of descriptions -/

/-- The lines of a description, of which a missing one has none. -/
def remarkLines : Json → List Text
  | .text value => trimmedLines value
  | _ => []

theorem singleLine_of_mem_remarkLines (description : Json) :
    ∀ line ∈ remarkLines description, SingleLine line := by
  cases description with
  | text value =>
      intro line member
      obtain ⟨whole, among, rfl⟩ := List.mem_map.mp member
      exact Text.singleLine_stripEnd (Text.singleLine_of_mem_lines whole among)
  | _ => exact nofun

theorem descriptionLines_eq {description : Json} (remark : IsRemark description) :
    descriptionLines description = .ok (remarkLines description) := by
  cases remark with
  | null => rfl
  | text value =>
      cases value with
      | nil => rfl
      | cons first rest => rfl

theorem comments_eq (width : Nat) {description : Json} (remark : IsRemark description) :
    comments (blanks width) description =
      .ok (Piece.comments width (remarkLines description)).lines := by
  rw [comments, descriptionLines_eq remark]
  rfl

theorem quotedLines_eq (width : Nat) {description : Json} (remark : IsRemark description) :
    quotedLines (blanks width) description = .ok ((remarkLines description).map fun line =>
      indented (blanks width) (escapeLine line)) := by
  rw [quotedLines, descriptionLines_eq remark]
  rfl

/-! ## Lines with and without remarks -/

/-- Lines that consist of the given remarks and of the same lines of code as others. -/
def Laid (remarks : List Piece) (lines bare : List Text) : Prop :=
  ∃ pieces plain : List Piece,
    pieces.flatMap Piece.lines = lines ∧ plain.flatMap Piece.lines = bare ∧
    pieces.filterMap Piece.code? = plain.filterMap Piece.code? ∧
    pieces.filter Piece.isRemark = remarks

namespace Laid

variable {remarks moreRemarks : List Piece} {lines moreLines bare moreBare : List Text}

theorem nil : Laid [] [] [] := ⟨[], [], rfl, rfl, rfl, rfl⟩

theorem append (first : Laid remarks lines bare) (second : Laid moreRemarks moreLines moreBare) :
    Laid (remarks ++ moreRemarks) (lines ++ moreLines) (bare ++ moreBare) := by
  obtain ⟨pieces, plain, rfl, rfl, code, rfl⟩ := first
  obtain ⟨morePieces, morePlain, rfl, rfl, moreCode, rfl⟩ := second
  refine ⟨pieces ++ morePieces, plain ++ morePlain, List.flatMap_append, List.flatMap_append,
    ?_, List.filter_append ..⟩
  rw [List.filterMap_append, List.filterMap_append, code, moreCode]

theorem code (lines : List Text) : Laid [] lines lines := by
  induction lines with
  | nil => exact nil
  | cons line rest ih =>
      have first : Laid [] [line] [line] := ⟨[.code line], [.code line], rfl, rfl, rfl, rfl⟩
      exact first.append ih

/-- A remark may stand in the place of another. -/
theorem remark {piece other : Piece} (isRemark : piece.isRemark = true)
    (otherRemark : other.isRemark = true) : Laid [piece] piece.lines other.lines := by
  have codeless {piece : Piece} (isRemark : piece.isRemark = true) : piece.code? = none := by
    cases piece <;> first | rfl | cases isRemark
  refine ⟨[piece], [other], List.flatMap_singleton .., List.flatMap_singleton .., ?_, ?_⟩
  · simp [codeless isRemark, codeless otherRemark]
  · simp [isRemark]

/-- The empty line behind documentation is no code. -/
theorem gaps (left right : Bool) :
    Laid [] (if left then [] else [emptyLine]) (if right then [] else [emptyLine]) := by
  refine ⟨if left then [] else [.gap], if right then [] else [.gap], ?_, ?_, ?_, ?_⟩ <;>
    cases left <;> cases right <;> rfl

/-- The body of an empty class is no code. -/
theorem passes (left right : Bool) :
    Laid [] (if left then ["    pass"] else []) (if right then ["    pass"] else []) := by
  refine ⟨if left then [.pass] else [], if right then [.pass] else [], ?_, ?_, ?_, ?_⟩ <;>
    cases left <;> cases right <;> rfl

end Laid

/-- The lines of some parts are laid if those of each part are. -/
theorem endsAlike_each {α : Type} {one : α → Except Misuse (List Text)}
    {all : List α → Except Misuse (List Text)} (concatenates : Concatenates one all)
    {strip : α → α} {remarkOf : α → Piece} {parts : List α}
    (each : ∀ part ∈ parts, EndsAlike (Laid [remarkOf part]) (one part) (one (strip part))) :
    EndsAlike (Laid (parts.map remarkOf)) (all parts) (all (parts.map strip)) := by
  induction parts with
  | nil =>
      rw [List.map_nil, List.map_nil, concatenates.nil]
      exact .ok .nil
  | cons part parts ih =>
      obtain ⟨own, later⟩ := List.forall_mem_cons.mp each
      rw [List.map_cons, List.map_cons, concatenates.cons, concatenates.cons]
      refine own.bind fun first bareFirst laid => ?_
      refine (ih later).bind fun others bareOthers laidOthers => ?_
      exact .ok (laid.append laidOthers)

/-- The classes of some parts, if that of each part is laid. -/
theorem classesOf_related {α : Type} {render : α → Rendering (List Text)} {strip : α → α}
    {remarksOf : α → List Piece} {parts : List α}
    (each : ∀ part ∈ parts,
      Related (Laid (remarksOf part)) (render part) (render (strip part))) :
    Related (Laid (parts.flatMap remarksOf)) (classesOf render parts)
      (classesOf render (parts.map strip)) := by
  induction parts with
  | nil => exact .pure .nil
  | cons part parts ih =>
      obtain ⟨own, later⟩ := List.forall_mem_cons.mp each
      rw [List.map_cons, classesOf, classesOf]
      refine own.bind fun first bareFirst laid => ?_
      refine (ih later).bind fun others bareOthers laidOthers => ?_
      have spacedLaid := laid.append (.code [emptyLine, emptyLine])
      rw [List.append_nil] at spacedLaid
      exact .pure (spacedLaid.append laidOthers)

/-! ## Enumerations -/

/-- What the documentation of a class of suggested values ends with. -/
def openEnumNotice : Text := "Suggested values only; any other string is accepted on the wire."

/-- The lines of the documentation of an enumeration. -/
def enumContent (isOpen : Bool) (described : List Text) : List Text :=
  let gap := if described.isEmpty then [] else [emptyLine]
  described ++ if isOpen then gap ++ [openEnumNotice] else []

def memberRemark (member : EnumMember) : Piece := .comments 4 (remarkLines member.description)

def enumRemarks (enumType : EnumType) : List Piece :=
  .documentation 4 (enumContent enumType.isOpen (remarkLines enumType.description)) ::
    enumType.members.map memberRemark

theorem freshLabels_undescribed (used : List Text) (members : List EnumMember) :
    freshLabels used (members.map EnumMember.undescribed) = freshLabels used members := by
  induction members generalizing used with
  | nil => rfl
  | cons member rest ih =>
      rw [List.map_cons, freshLabels, freshLabels, ih]
      rfl

def quotedContent (width : Nat) (content : List Text) : List Text :=
  content.map fun line => indented (blanks width) (escapeLine line)

theorem quotedContent_append (width : Nat) (first second : List Text) :
    quotedContent width (first ++ second) =
      quotedContent width first ++ quotedContent width second :=
  List.map_append

theorem lines_documentation_of_ne_nil (width : Nat) {content : List Text} (present : content ≠ []) :
    (Piece.documentation width content).lines =
      [blanks width ++ tripleQuote] ++ quotedContent width content ++
        [blanks width ++ tripleQuote] := by
  cases content with
  | nil => exact absurd rfl present
  | cons first rest => rfl

theorem quotedContent_openEnumNotice :
    quotedContent 4 [emptyLine, openEnumNotice] = [emptyLine, openEnumRemark] := by
  decide +kernel

theorem enumDocumentation_eq (isOpen : Bool) (described : List Text) :
    enumDocumentation isOpen (quotedContent 4 described) =
      (Piece.documentation 4 (enumContent isOpen described)).lines ++
        (if (enumContent isOpen described).isEmpty then [] else [emptyLine]) := by
  have four : Text.ofString "    " = blanks 4 := rfl
  cases described with
  | nil => cases isOpen <;> rfl
  | cons first rest =>
      have present : enumContent isOpen (first :: rest) ≠ [] := List.cons_ne_nil _ _
      rw [lines_documentation_of_ne_nil 4 present, List.isEmpty_eq_false_iff.mpr present]
      cases isOpen with
      | false =>
          have same : enumContent false (first :: rest) = first :: rest := List.append_nil _
          rw [same]
          simp [enumDocumentation, quotedContent, four]
      | true =>
          have quoted : quotedContent 4 (enumContent true (first :: rest)) =
              quotedContent 4 (first :: rest) ++ [emptyLine, openEnumRemark] := by
            rw [← quotedContent_openEnumNotice, ← quotedContent_append]
            rfl
          rw [quoted]
          simp [enumDocumentation, quotedContent, four]

theorem memberLines_alike (label : Text) {member : EnumMember}
    (remark : IsRemark member.description) :
    EndsAlike (Laid [memberRemark member]) (memberLines label member)
      (memberLines label member.undescribed) := by
  have own : comments "    " member.description = _ := comments_eq 4 remark
  have bare : comments "    " member.undescribed.description = _ := comments_eq 4 .null
  rw [memberLines, memberLines, own, bare]
  have commented : Laid [memberRemark member] (memberRemark member).lines
      (Piece.comments 4 []).lines := .remark rfl rfl
  exact .ok (commented.append (.code ["    " ++ label ++ " = " ++ Json.encodeText member.value]))

theorem membersLines_alike {labelled : List (Text × EnumMember)}
    (remarks : ∀ pair ∈ labelled, IsRemark pair.2.description) :
    EndsAlike (Laid (labelled.map fun pair => memberRemark pair.2)) (membersLines labelled)
      (membersLines (labelled.map fun pair => (pair.1, pair.2.undescribed))) :=
  endsAlike_each concatenates_membersLines fun pair member =>
    memberLines_alike pair.1 (remarks pair member)

theorem zip_undescribed (members : List EnumMember) :
    (freshLabels [] (members.map EnumMember.undescribed)).zip
        (members.map EnumMember.undescribed) =
      ((freshLabels [] members).zip members).map fun pair => (pair.1, pair.2.undescribed) := by
  rw [freshLabels_undescribed, List.zip_map_right]
  rfl

theorem enumDocumentation_laid (isOpen : Bool) (described bare : List Text) :
    Laid [.documentation 4 (enumContent isOpen described)]
      (enumDocumentation isOpen (quotedContent 4 described))
      (enumDocumentation isOpen (quotedContent 4 bare)) := by
  rw [enumDocumentation_eq, enumDocumentation_eq]
  exact (Laid.remark rfl rfl).append (.gaps _ _)

theorem enumLines_laid (enumType : EnumType) (described : List Text)
    {members bareMembers : List Text} {remarks : List Piece}
    (laid : Laid remarks members bareMembers) :
    Laid (.documentation 4 (enumContent enumType.isOpen described) :: remarks)
      (enumLines enumType (quotedContent 4 described) members)
      (enumLines enumType.undescribed [] bareMembers) := by
  have head : Laid [] [enumHead enumType] [enumHead enumType.undescribed] := .code _
  have whole := ((head.append (enumDocumentation_laid enumType.isOpen described [])).append
    laid).append (.passes
      (enumType.members.isEmpty && (quotedContent 4 described).isEmpty && !enumType.isOpen)
      (enumType.undescribed.members.isEmpty && (quotedContent 4 []).isEmpty && !enumType.isOpen))
  rw [List.append_nil] at whole
  exact whole

theorem map_zip_freshLabels {α : Type} (function : EnumMember → α) (members : List EnumMember) :
    ((freshLabels [] members).zip members).map (fun pair => function pair.2) =
      members.map function := by
  have second : ((freshLabels [] members).zip members).map Prod.snd = members :=
    List.map_snd_zip (Nat.le_of_eq (length_freshLabels [] members).symm)
  conv => rhs; rw [← second, List.map_map]
  rfl

theorem enumBody_related {enumType : EnumType} (own : IsRemark enumType.description)
    (members : ∀ member ∈ enumType.members, IsRemark member.description) :
    Related (Laid (enumRemarks enumType)) (enumBody enumType) (enumBody enumType.undescribed) := by
  have quoted : quotedLines "    " enumType.description = _ := quotedLines_eq 4 own
  have bare : quotedLines "    " enumType.undescribed.description = _ := quotedLines_eq 4 .null
  have remarks : ∀ pair ∈ (freshLabels [] enumType.members).zip enumType.members,
      IsRemark pair.2.description :=
    fun pair inside => members pair.2 (List.of_mem_zip inside).2
  have alike := membersLines_alike remarks
  rw [← zip_undescribed, map_zip_freshLabels] at alike
  rw [enumBody, enumBody, quoted, bare, Traced.ofExcept_ok, Traced.ofExcept_ok, pure_bind,
    pure_bind]
  refine (Related.ofExcept alike).bind fun lines bareLines laid => ?_
  exact .pure (enumLines_laid enumType (remarkLines enumType.description) laid)

/-- The class of an enumeration consists of its remarks and of the code of the class
without them. -/
theorem enumClass_related {enumType : EnumType}
    (described : Entity.Described (.enumType enumType)) :
    Related (Laid (enumRemarks enumType)) (enumClass enumType)
      (enumClass enumType.undescribed) := by
  cases described with
  | enumType own members =>
      have bodies := enumBody_related own members
      rw [enumClass_eq, enumClass_eq]
      show Related _ _ (if enumType.isOpen then _ else _)
      split
      · exact bodies
      · exact .after fun _ _ => bodies

/-! ## Records -/

def propertyRemark (property : RecordProperty) : Piece :=
  .comments 4 (remarkLines property.description)

def recordRemarks (record : Record) : List Piece :=
  .documentation 4 (remarkLines record.description) :: record.properties.map propertyRemark

theorem fieldsOf_undescribed (properties : List RecordProperty) :
    fieldsOf (properties.map RecordProperty.undescribed) = fieldsOf properties := by
  induction properties with
  | nil => rfl
  | cons property rest ih =>
      rw [List.map_cons, fieldsOf, fieldsOf, ih]
      rfl

theorem ownFieldLines_alike {pair : RecordProperty × Field}
    (remark : IsRemark pair.1.description) :
    EndsAlike (Laid [propertyRemark pair.1]) (ownFieldLines pair)
      (ownFieldLines (pair.1.undescribed, pair.2)) := by
  have own : comments "    " pair.1.description = _ := comments_eq 4 remark
  have bare : comments "    " pair.1.undescribed.description = _ := comments_eq 4 .null
  have commented : Laid [propertyRemark pair.1] (propertyRemark pair.1).lines
      (Piece.comments 4 []).lines := .remark rfl rfl
  rw [ownFieldLines, ownFieldLines, own, bare]
  exact .ok ((commented.append (.code (suggestionLines pair.1))).append (.code [pair.2.line]))

theorem fieldLines_alike {fields : List (RecordProperty × Field)}
    (remarks : ∀ pair ∈ fields, IsRemark pair.1.description) :
    EndsAlike (Laid (fields.map fun pair => propertyRemark pair.1)) (fieldLines fields)
      (fieldLines (fields.map fun pair => (pair.1.undescribed, pair.2))) :=
  endsAlike_each concatenates_fieldLines fun pair member =>
    ownFieldLines_alike (remarks pair member)

theorem recordDocumentation_eq (described : List Text) :
    recordDocumentation (quotedContent 4 described) =
      (Piece.documentation 4 described).lines ++
        (if described.isEmpty then [] else [emptyLine]) := by
  have four : Text.ofString "    " = blanks 4 := rfl
  cases described with
  | nil => rfl
  | cons first rest => simp [recordDocumentation, quotedContent, Piece.lines, four]

def recordLines (record : Record) (described fields : List Text) : List Text :=
  let head : List Text := ["@dataclass_json", "@dataclass(kw_only=True)", recordHead record]
  let filler : List Text :=
    if record.properties.isEmpty && described.isEmpty then ["    pass"] else []
  head ++ recordDocumentation described ++ fields ++ filler

theorem recordLines_laid (record : Record) (described : List Text)
    {fields bareFields : List Text} {remarks : List Piece}
    (laid : Laid remarks fields bareFields) :
    Laid (.documentation 4 described :: remarks)
      (recordLines record (quotedContent 4 described) fields)
      (recordLines record.undescribed [] bareFields) := by
  have head : Laid [] ["@dataclass_json", "@dataclass(kw_only=True)", recordHead record]
      ["@dataclass_json", "@dataclass(kw_only=True)", recordHead record.undescribed] := .code _
  have documented : Laid [.documentation 4 described]
      (recordDocumentation (quotedContent 4 described))
      (recordDocumentation (quotedContent 4 [])) := by
    rw [recordDocumentation_eq, recordDocumentation_eq]
    exact (Laid.remark rfl rfl).append (.gaps _ _)
  have whole := ((head.append documented).append laid).append (.passes
    (record.properties.isEmpty && (quotedContent 4 described).isEmpty)
    (record.undescribed.properties.isEmpty && (quotedContent 4 []).isEmpty))
  rw [List.append_nil] at whole
  exact whole

theorem zip_fields_undescribed {properties : List RecordProperty} (fields : List Field) :
    (properties.map RecordProperty.undescribed).zip fields =
      (properties.zip fields).map fun pair => (pair.1.undescribed, pair.2) := by
  rw [List.zip_map_left]
  rfl

theorem map_zip_fields {α : Type} (function : RecordProperty → α)
    {properties : List RecordProperty} {fields : List Field}
    (bound : (fieldsOf properties).outcome = .ok fields) :
    (properties.zip fields).map (fun pair => function pair.1) = properties.map function := by
  have first : (properties.zip fields).map Prod.fst = properties :=
    List.map_fst_zip (Nat.le_of_eq (collects_fieldsOf.ok_iff.mp bound).length_eq)
  conv => rhs; rw [← first, List.map_map]
  rfl

/-- The class of a record consists of its remarks and of the code of the class without
them. -/
theorem recordClass_related {record : Record} (described : Entity.Described (.record record)) :
    Related (Laid (recordRemarks record)) (recordClass record)
      (recordClass record.undescribed) := by
  cases described with
  | record own properties =>
      have quoted : quotedLines "    " record.description = _ := quotedLines_eq 4 own
      have bare : quotedLines "    " record.undescribed.description = _ := quotedLines_eq 4 .null
      have fields : fieldsOf record.undescribed.properties = fieldsOf record.properties :=
        fieldsOf_undescribed record.properties
      rw [recordClass, recordClass, quoted, bare, fields]
      refine .after fun _ _ => .after fun _ _ => .after fun fields bound => ?_
      have remarks : ∀ pair ∈ record.properties.zip fields, IsRemark pair.1.description :=
        fun pair inside => properties pair.1 (List.of_mem_zip inside).1
      have alike := fieldLines_alike remarks
      rw [← zip_fields_undescribed, map_zip_fields _ bound] at alike
      rw [Traced.ofExcept_ok, Traced.ofExcept_ok, pure_bind, pure_bind]
      refine (Related.ofExcept alike).bind fun lines bareLines laid => ?_
      exact .pure (recordLines_laid record (remarkLines record.description) laid)

theorem baseRecord?_undescribed (records : List Record) (record : Record) :
    baseRecord? (records.map Record.undescribed) record.undescribed =
      (baseRecord? records record).map Record.undescribed := by
  rw [baseRecord?, baseRecord?, recordOfName?, recordOfName?, ← List.map_reverse, List.find?_map]
  rfl

theorem names_undescribed (records : List Record) :
    (records.map Record.undescribed).map Record.name = records.map Record.name := by
  rw [List.map_map]
  rfl

theorem appendRecord_undescribed (records : List Record) (rounds : Nat) (appending : List Text)
    (ordered : List Record) (record : Record) :
    appendRecord (records.map Record.undescribed) rounds appending
        (ordered.map Record.undescribed) record.undescribed =
      (appendRecord records rounds appending ordered record).map Record.undescribed := by
  induction rounds generalizing appending ordered record with
  | zero => rfl
  | succ rounds ih =>
      have name : record.undescribed.name = record.name := rfl
      rw [appendRecord, appendRecord, names_undescribed, name, baseRecord?_undescribed]
      split
      · rfl
      · cases baseRecord? records record with
        | none => simp only [Option.map_none, List.map_append, List.map_cons, List.map_nil]
        | some base =>
            simp only [Option.map_some, ih, List.map_append, List.map_cons, List.map_nil]

theorem orderRecords_undescribed (records : List Record) :
    orderRecords (records.map Record.undescribed) =
      (orderRecords records).map Record.undescribed := by
  rw [orderRecords, orderRecords, List.length_map, List.foldl_map]
  show List.foldl _ (List.map Record.undescribed []) records = _
  exact List.foldl_hom (List.map Record.undescribed) fun ordered record =>
    appendRecord_undescribed records _ [] ordered record

/-! ## Interfaces -/

def Method.undescribed (method : Method) : Method :=
  { method with description := .null, returnsDescription := .null }

/-- What the documentation of a method says above the description of its result. -/
def returnsNotice : Text := "Returns:"

/-- The lines of the documentation of a method. -/
def methodContent (described result : List Text) : List Text :=
  let gap := if described.isEmpty then [] else [emptyLine]
  let returned := result.map (indented (blanks 4))
  described ++ if result.isEmpty then [] else gap ++ returnsNotice :: returned

def methodRemark (description returnsDescription : Json) : Piece :=
  .documentation 8 (methodContent (remarkLines description) (remarkLines returnsDescription))

theorem escapeLine_blanks (width : Nat) (line : Text) :
    escapeLine (blanks width ++ line) = blanks width ++ escapeLine line := by
  induction width with
  | zero => rfl
  | succ width ih =>
      have blank (rest : Text) : escapeLine (.char ' ' :: rest) = .char ' ' :: escapeLine rest :=
        escapeLine_cons (by decide) fun same => absurd same (by decide)
      rw [blanks, List.replicate_succ, List.cons_append, blank, ← blanks, ih]
      rfl

theorem blanks_add (first second : Nat) : blanks (first + second) = blanks first ++ blanks second :=
  List.replicate_append_replicate.symm

/-- A line may be indented in two steps, before and after it is escaped. -/
theorem indented_escapeLine_indented (outer inner : Nat) (line : Text) :
    indented (blanks outer) (escapeLine (indented (blanks inner) line)) =
      indented (blanks (outer + inner)) (escapeLine line) := by
  cases line with
  | nil => rfl
  | cons first rest =>
      have present : escapeLine (first :: rest) ≠ [] := escapeLine_ne_nil (List.cons_ne_nil _ _)
      have behind : blanks inner ++ escapeLine (first :: rest) ≠ [] :=
        List.append_ne_nil_of_right_ne_nil _ present
      have whole : indented (blanks inner) (first :: rest) = blanks inner ++ first :: rest := rfl
      rw [whole, escapeLine_blanks, indented, indented, List.isEmpty_eq_false_iff.mpr present,
        List.isEmpty_eq_false_iff.mpr behind, blanks_add]
      simp

theorem quotedContent_indented (result : List Text) :
    quotedContent 8 (result.map (indented (blanks 4))) = quotedContent 12 result := by
  rw [quotedContent, quotedContent, List.map_map]
  exact List.map_congr_left fun line _ => indented_escapeLine_indented 8 4 line

theorem quotedContent_methodContent (described : List Text) (first : Text) (rest : List Text) :
    quotedContent 8 (methodContent described (first :: rest)) =
      quotedContent 8 described ++ ((if described.isEmpty then [] else [emptyLine]) ++
        returnsHeading :: quotedContent 12 (first :: rest)) := by
  have heading : quotedContent 8 [returnsNotice] = [returnsHeading] := by decide
  have gap : quotedContent 8 (if described.isEmpty then [] else [emptyLine]) =
      if described.isEmpty then [] else [emptyLine] := by
    cases described.isEmpty <;> rfl
  have content : methodContent described (first :: rest) =
      described ++ ((if described.isEmpty then [] else [emptyLine]) ++
        ([returnsNotice] ++ (first :: rest).map (indented (blanks 4)))) := rfl
  rw [content, quotedContent_append, quotedContent_append, quotedContent_append, gap, heading,
    quotedContent_indented]
  rfl

theorem methodDocumentation_eq (described result : List Text) :
    methodDocumentation (quotedContent 8 described) (quotedContent 12 result) =
      (Piece.documentation 8 (methodContent described result)).lines := by
  have eight : Text.ofString "        " = blanks 8 := rfl
  cases result with
  | nil =>
      have same : methodContent described [] = described := List.append_nil _
      rw [same]
      cases described with
      | nil => rfl
      | cons first rest => simp [methodDocumentation, quotedContent, Piece.lines, eight]
  | cons first rest =>
      have present : methodContent described (first :: rest) ≠ [] :=
        List.append_ne_nil_of_right_ne_nil _ (by simp)
      rw [lines_documentation_of_ne_nil 8 present, quotedContent_methodContent]
      cases described with
      | nil => simp [methodDocumentation, quotedContent, eight]
      | cons second others => simp [methodDocumentation, quotedContent, eight]

/-- The lines of a method consist of its remark and of the lines of the method without it. -/
theorem methodLines_alike {method : Method} (described : method.Described) :
    EndsAlike (Laid [methodRemark method.description method.returnsDescription])
      (methodLines method) (methodLines method.undescribed) := by
  have own : quotedLines "        " method.description = _ := quotedLines_eq 8 described.own
  have result : quotedLines "            " method.returnsDescription = _ :=
    quotedLines_eq 12 described.returns
  have bareOwn : quotedLines "        " method.undescribed.description = _ :=
    quotedLines_eq 8 .null
  have bareResult : quotedLines "            " method.undescribed.returnsDescription = _ :=
    quotedLines_eq 12 .null
  have named : Laid [] (emptyLine :: wireNameLines method)
      (emptyLine :: wireNameLines method.undescribed) := .code _
  have head : Laid [] [methodHead method] [methodHead method.undescribed] := .code _
  have documented : Laid [methodRemark method.description method.returnsDescription]
      (methodDocumentation (quotedContent 8 (remarkLines method.description))
        (quotedContent 12 (remarkLines method.returnsDescription)))
      (methodDocumentation (quotedContent 8 []) (quotedContent 12 [])) := by
    rw [methodDocumentation_eq, methodDocumentation_eq]
    exact .remark rfl rfl
  rw [methodLines, methodLines, own, result, bareOwn, bareResult]
  exact .ok ((named.append (head.append documented)).append (.code [stub]))

theorem methodsLines_alike {methods : List Method}
    (described : ∀ method ∈ methods, method.Described) :
    EndsAlike
      (Laid (methods.map fun method => methodRemark method.description method.returnsDescription))
      (methodsLines methods) (methodsLines (methods.map Method.undescribed)) :=
  endsAlike_each concatenates_methodsLines fun method member =>
    methodLines_alike (described method member)

/-- A method of an operation, the method without its descriptions, and the remark on it. -/
structure Stripped (remark : Piece) (method bare : Method) : Prop where
  bare : bare = method.undescribed
  remark : methodRemark method.description method.returnsDescription = remark
  described : method.Described

theorem requestMethod_related {request : Request}
    (described : IsRemark request.description ∧ IsRemark request.responseDescription) :
    Related (Stripped (methodRemark request.description request.responseDescription))
      (requestMethod request) (requestMethod request.undescribed) := by
  rw [requestMethod, requestMethod]
  refine .after fun arguments _ => ?_
  dsimp only [Request.undescribed]
  cases request.returns with
  | none => exact .fail _
  | some type => exact .after fun returns _ => .pure ⟨rfl, rfl, described.1, described.2⟩

theorem eventMethod_related {event : Event} (described : IsRemark event.description) :
    Related (Stripped (methodRemark event.description .null))
      (eventMethod event) (eventMethod event.undescribed) := by
  rw [eventMethod, eventMethod]
  exact .after fun arguments _ => .pure ⟨rfl, rfl, described, .null⟩

/-- Methods of some operations, the methods without their descriptions, and the remarks. -/
structure AllStripped (remarks : List Piece) (methods bare : List Method) : Prop where
  bare : bare = methods.map Method.undescribed
  remarks : methods.map (fun method =>
    methodRemark method.description method.returnsDescription) = remarks
  described : ∀ method ∈ methods, method.Described

section

variable {α : Type} {method : α → Rendering Method} {strip : α → α} {remarkOf : α → Piece}
variable {operations : List α} (each : ∀ operation ∈ operations,
  Related (Stripped (remarkOf operation)) (method operation) (method (strip operation)))

include each

theorem methodsOf_related :
    Related (AllStripped (operations.map remarkOf)) (methodsOf method operations)
      (methodsOf method (operations.map strip)) := by
  induction operations with
  | nil => exact .pure ⟨rfl, rfl, nofun⟩
  | cons operation rest ih =>
      obtain ⟨own, later⟩ := List.forall_mem_cons.mp each
      rw [List.map_cons, List.map_cons, methodsOf, methodsOf]
      refine own.bind fun first bareFirst stripped => ?_
      refine (ih later).bind fun others bareOthers allStripped => ?_
      apply Related.pure
      exact {
        bare := by rw [stripped.bare, allStripped.bare, List.map_cons]
        remarks := by rw [List.map_cons, stripped.remark, allStripped.remarks]
        described := List.forall_mem_cons.mpr ⟨stripped.described, allStripped.described⟩ }

/-- The interface of some operations consists of the remarks on them and of the code of
the interface without them. -/
theorem interfaceOf_related (name : Json) (description : Text) :
    Related (Laid (operations.map remarkOf)) (interfaceOf name description method operations)
      (interfaceOf name description method (operations.map strip)) := by
  have related := methodsOf_related each
  rw [interfaceOf, interfaceOf, List.isEmpty_map]
  split
  next empty =>
    rw [List.isEmpty_iff.mp empty]
    exact .pure .nil
  next =>
    refine related.bind fun methods bare stripped => ?_
    have alike := methodsLines_alike stripped.described
    rw [stripped.remarks, ← stripped.bare] at alike
    have head := Laid.code ["class " ++ name.display ++ "(Protocol):",
      "    " ++ tripleQuote ++ description ++ tripleQuote]
    have interfaces : Related (Laid (operations.map remarkOf))
        (interfaceClass name.display description methods)
        (interfaceClass name.display description bare) :=
      .after fun _ _ => (Related.ofExcept alike).bind fun lines bareLines laid =>
        .pure (head.append laid)
    refine interfaces.bind fun lines bareLines laid => ?_
    have spacedLaid := laid.append (.code [emptyLine, emptyLine])
    rw [List.append_nil] at spacedLaid
    exact .pure spacedLaid

end

/-! ## Modules -/

def requestRemark (request : Request) : Piece :=
  methodRemark request.description request.responseDescription

def eventRemark (event : Event) : Piece := methodRemark event.description .null

def modelRemarks (model : Model) : List Piece :=
  (orderEnums model.enumTypes).flatMap enumRemarks ++
    (orderRecords model.records).flatMap recordRemarks ++
    model.requests.map requestRemark ++ model.events.map eventRemark

theorem orderEnums_undescribed (enumTypes : List EnumType) :
    orderEnums (enumTypes.map EnumType.undescribed) =
      (orderEnums enumTypes).map EnumType.undescribed := by
  rw [orderEnums, orderEnums, List.map_append, List.filter_map, List.filter_map]
  rfl

theorem mem_of_mem_orderEnums {enumTypes : List EnumType} :
    ∀ enumType ∈ orderEnums enumTypes, enumType ∈ enumTypes := by
  intro enumType member
  rcases List.mem_append.mp member with closed | opened
  · exact (List.mem_filter.mp closed).1
  · exact (List.mem_filter.mp opened).1

section

variable {model : Model} (described : model.Described)

include described

theorem enumClasses_related :
    Related (Laid ((orderEnums model.enumTypes).flatMap enumRemarks))
      (classesOf enumClass (orderEnums model.enumTypes))
      (classesOf enumClass ((orderEnums model.enumTypes).map EnumType.undescribed)) :=
  classesOf_related fun _ member =>
    enumClass_related (described.enumType (mem_of_mem_orderEnums _ member))

theorem recordClasses_related :
    Related (Laid ((orderRecords model.records).flatMap recordRemarks))
      (classesOf recordClass (orderRecords model.records))
      (classesOf recordClass ((orderRecords model.records).map Record.undescribed)) :=
  classesOf_related fun _ member =>
    recordClass_related (described.record (mem_of_mem_orderRecords _ member))

theorem modelLines_related (config : Config) :
    Related (Laid (modelRemarks model)) (modelLines config model)
      (modelLines config model.undescribed) := by
  have requests : ∀ request ∈ model.requests, Related (Stripped (requestRemark request))
      (requestMethod request) (requestMethod request.undescribed) :=
    fun request member => requestMethod_related (described.requests request member)
  have events : ∀ event ∈ model.events, Related (Stripped (eventRemark event))
      (eventMethod event) (eventMethod event.undescribed) :=
    fun event member => eventMethod_related (described.events event member)
  rw [modelLines, modelLines, enumTypes_undescribed, records_undescribed,
    orderEnums_undescribed, orderRecords_undescribed]
  refine .after fun _ _ => ?_
  refine (enumClasses_related described).bind fun enumTypes bareEnumTypes enumTypesLaid => ?_
  refine (recordClasses_related described).bind fun records bareRecords recordsLaid => ?_
  refine (interfaceOf_related requests _ _).bind fun server bareServer serverLaid => ?_
  refine (interfaceOf_related events _ _).bind fun client bareClient clientLaid => ?_
  exact .pure (((enumTypesLaid.append recordsLaid).append serverLaid).append clientLaid)

end

/-! ## Remarks stay apart -/

/-- A remark whose lines do not run over a line end. -/
structure Piece.Clean (piece : Piece) : Prop where
  remark : piece.isRemark = true
  single : ∀ line ∈ piece.content, SingleLine line

theorem singleLine_of_mem_gap (empty : Bool) :
    ∀ line ∈ (if empty then [] else [emptyLine]), SingleLine line := by
  cases empty with
  | true => exact nofun
  | false => exact List.forall_mem_singleton.mpr nofun

theorem clean_of_mem_enumRemarks (enumType : EnumType) :
    ∀ piece ∈ enumRemarks enumType, piece.Clean := by
  have documented : ∀ line ∈ enumContent enumType.isOpen (remarkLines enumType.description),
      SingleLine line := by
    have notice : SingleLine openEnumNotice := by decide +kernel
    intro line member
    rcases List.mem_append.mp member with described | added
    · exact singleLine_of_mem_remarkLines _ line described
    · cases opened : enumType.isOpen with
      | false =>
          rw [opened] at added
          cases added
      | true =>
          rw [opened] at added
          rcases List.mem_append.mp added with gap | last
          · exact singleLine_of_mem_gap _ line gap
          · exact List.mem_singleton.mp last ▸ notice
  intro piece inside
  rcases List.mem_cons.mp inside with rfl | later
  · exact ⟨rfl, documented⟩
  · obtain ⟨member, _, rfl⟩ := List.mem_map.mp later
    exact ⟨rfl, singleLine_of_mem_remarkLines member.description⟩

theorem clean_of_mem_recordRemarks (record : Record) :
    ∀ piece ∈ recordRemarks record, piece.Clean := by
  intro piece inside
  rcases List.mem_cons.mp inside with rfl | later
  · exact ⟨rfl, singleLine_of_mem_remarkLines record.description⟩
  · obtain ⟨property, _, rfl⟩ := List.mem_map.mp later
    exact ⟨rfl, singleLine_of_mem_remarkLines property.description⟩

theorem clean_methodRemark (description returnsDescription : Json) :
    (methodRemark description returnsDescription).Clean := by
  refine ⟨rfl, List.forall_mem_append.mpr ⟨singleLine_of_mem_remarkLines _, ?_⟩⟩
  have notice : SingleLine returnsNotice := by decide
  split
  · exact nofun
  · refine List.forall_mem_append.mpr ⟨singleLine_of_mem_gap _, ?_⟩
    exact List.forall_mem_cons.mpr ⟨notice, List.forall_mem_map.mpr fun line member =>
      Piece.singleLine_indented (singleLine_of_mem_remarkLines _ line member)⟩

theorem clean_of_mem_modelRemarks (model : Model) : ∀ piece ∈ modelRemarks model, piece.Clean := by
  intro piece member
  simp only [modelRemarks, List.mem_append, List.mem_flatMap, List.mem_map] at member
  rcases member with ((⟨enumType, _, own⟩ | ⟨record, _, own⟩) | ⟨request, _, rfl⟩) |
    ⟨event, _, rfl⟩
  · exact clean_of_mem_enumRemarks enumType piece own
  · exact clean_of_mem_recordRemarks record piece own
  · exact clean_methodRemark _ _
  · exact clean_methodRemark _ _

/-- Code that is made of pieces: its lines are theirs, and so are its physical lines,
whose end may leave out empty ones. -/
structure MadeOf (pieces : List Piece) (code : Text) : Prop where
  written : ∃ blank,
    joinLines (pieces.flatMap Piece.lines) = code ++ List.replicate blank (.char '\n')
  physical : ∃ blank, physicalLines code ++ List.replicate blank [] =
    pieces.flatMap fun piece => physicalLines (joinLines piece.lines)

theorem physicalLines_replicate (blank : Nat) :
    physicalLines (List.replicate blank (.char '\n')) = List.replicate blank [] := by
  induction blank with
  | zero => rfl
  | succ blank ih =>
      rw [List.replicate_succ, List.replicate_succ, ← ih]
      rfl

theorem madeOf_endOnce {pieces : List Piece} (present : pieces.flatMap Piece.lines ≠ []) :
    MadeOf pieces (endOnce (joinLines (pieces.flatMap Piece.lines))) := by
  obtain ⟨blank, written⟩ := joinLines_eq_endOnce present
  refine ⟨⟨blank, written⟩, blank, ?_⟩
  have ended : endOnce (joinLines (pieces.flatMap Piece.lines)) =
      Text.dropEndWhile (lineEnd.contains ·) (joinLines (pieces.flatMap Piece.lines)) ++
        [.char '\n'] := rfl
  calc physicalLines (endOnce (joinLines (pieces.flatMap Piece.lines))) ++ List.replicate blank []
      = physicalLines (endOnce (joinLines (pieces.flatMap Piece.lines)) ++
          List.replicate blank (.char '\n')) := by
        rw [ended, List.append_assoc, List.singleton_append,
          Text.physicalLines_append_lineFeed _ (List.replicate blank _), physicalLines_replicate]
    _ = pieces.flatMap fun piece => physicalLines (joinLines piece.lines) := by
        rw [← written, physicalLines_joinLines, List.flatMap_assoc]
        simp only [physicalLines_joinLines]

/-- Code whose remarks are the given ones, each apart from the code around it, while its
lines of code are those of other code. -/
structure SetApart (remarks : List Piece) (code bare : Text) : Prop where
  layout : ∃ pieces plain, MadeOf pieces code ∧ MadeOf plain bare ∧
    pieces.filterMap Piece.code? = plain.filterMap Piece.code? ∧
    pieces.filter Piece.isRemark = remarks
  enclosed : ∀ remark ∈ remarks, remark.Enclosed

def commentRemark (comment : Text) : Piece := .comments 0 (Text.lines comment)

theorem headLines_laid (comment : Text) (imports : List Import) (version : Json) :
    Laid [commentRemark comment] (headLines comment imports version)
      (headLines "" imports version) := by
  have commented : Laid [commentRemark comment] (commentRemark comment).lines
      (commentRemark "").lines := .remark rfl rfl
  rw [headLines, headLines, List.append_assoc, List.append_assoc]
  exact commented.append (.code _)

/-- Descriptions and the comment in front of a module reach generated code as remarks
that stay apart from it, and in no other way. -/
theorem descriptions_of_moduleText {model : Model} (described : model.Described)
    (config : Config) (comment : Text) :
    Related (SetApart (commentRemark comment :: modelRemarks model))
      (moduleText config model comment) (moduleText config model.undescribed "") := by
  have related := modelLines_related described config
  have clean : ∀ piece ∈ commentRemark comment :: modelRemarks model, piece.Clean := by
    intro piece member
    rcases List.mem_cons.mp member with rfl | later
    · exact ⟨rfl, fun _ => Text.singleLine_of_mem_lines _⟩
    · exact clean_of_mem_modelRemarks model piece later
  refine ⟨related.trail, ?_⟩
  show EndsAlike _ (Except.map _ _) (Except.map _ _)
  rw [← related.trail]
  refine related.outcome.map fun lines bare laid => ?_
  obtain ⟨pieces, plain, written, plainWritten, code, remarks⟩ :=
    (headLines_laid comment (modelLines config model).trail model.version).append laid
  have version : model.undescribed.version = model.version := rfl
  constructor
  · refine ⟨pieces, plain, ?_, ?_, code, remarks⟩
    · rw [← written]
      exact madeOf_endOnce (by rw [written]; simp [headLines])
    · rw [version, ← plainWritten]
      exact madeOf_endOnce (by rw [plainWritten]; simp [headLines])
  · intro remark member
    obtain ⟨isRemark, single⟩ := clean remark member
    exact Piece.enclosed_of_singleLine isRemark single

/-- A model whose descriptions have quotes, backslashes and further line boundaries. -/
def quotedModel : Model where
  entities := [
    .record {
      name := "Quoted"
      base := none
      properties := [⟨"value", .scalar .string false, true, .text "one\u2028import os"⟩]
      description := .text "Four \"\"\"\" quotes\r\n\na backslash \\ and a quote \""
      synthesized := false },
    .enumType {
      name := "Kind"
      members := [⟨"a", "A", .text "\"\"\"", true⟩]
      isOpen := true
      description := .text "Ends with a backslash \\"
      synthesized := false }]
  requests := [{
    request := "PingRequest"
    response := "PingResponse"
    command := "ping"
    arguments := none
    returns := some .void
    description := .null
    responseDescription := .text "Pong \\\"\"\"" }]

theorem descriptions_quotedModel :
    ∃ code bare, (moduleText {} quotedModel "one\rtwo").outcome = .ok code ∧
      (moduleText {} quotedModel.undescribed "").outcome = .ok bare ∧
      SetApart (commentRemark "one\rtwo" :: modelRemarks quotedModel) code bare := by
  have described : quotedModel.Described := by
    refine ⟨?_, ?_, nofun⟩
    · refine List.forall_mem_cons.mpr ⟨?_, List.forall_mem_singleton.mpr ?_⟩
      · exact .record (.text _) (List.forall_mem_singleton.mpr (.text _))
      · exact .enumType (.text _) (List.forall_mem_singleton.mpr (.text _))
    · exact List.forall_mem_singleton.mpr ⟨.null, .text _⟩
  have succeeds : (moduleText {} quotedModel "one\rtwo").outcome.isOk = true := by
    decide +kernel
  have ended := Traced.outcome_eq_valueOr [] succeeds
  have related := descriptions_of_moduleText described {} "one\rtwo"
  obtain ⟨bare, bareEnded, apart⟩ := related.exists_ok ended
  exact ⟨_, bare, ended, bareEnded, apart⟩

end ProtocolBindings.Bindings
