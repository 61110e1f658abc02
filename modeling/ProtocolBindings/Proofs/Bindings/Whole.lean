import ProtocolBindings.Proofs.Bindings.Descriptions
import ProtocolBindings.Proofs.Bindings.Needs
import ProtocolBindings.Proofs.Bindings.WireNames
import ProtocolBindings.Proofs.Config
import ProtocolBindings.Proofs.Model.Whole

/-!
# Rendering of whole models

The code of a whole model is whole, so that it is the text of a string and can be encoded:
every line of it is put together from whole texts, from identifiers and from escaped
literals.
-/

namespace ProtocolBindings.Bindings

open Model
open Text (Whole)
open Traced (Ends Yields)

theorem WordsOnly.whole {text : Text} (words : WordsOnly text) : text.Whole := by
  intro symbol member
  have word := words symbol member
  cases symbol with
  | char value => rfl
  | half offset => cases word

theorem whole_identifier (name : Text) : (identifier name).Whole :=
  (wordsOnly_identifier name).whole

/-! ## Annotations -/

theorem whole_scalarName (type : PrimitiveType) : (scalarName type).Whole := by
  cases type <;> exact Text.whole_ofString _

theorem annotationOf_yields {type : TypeDescriptor} (whole : type.Whole) :
    (annotationOf type).Yields Text.Whole := by
  -- Each kind draws a text of its own, to which all of them add whether the value can be absent.
  induction whole with
  | @intro type name suggested inner ih =>
      obtain ⟨kind, primitive, own, arguments, nullable, openEnum⟩ := type
      have stated {plain : Text} (drawn : plain.Whole) (admitted : Bool) :
          Text.Whole (if admitted then plain ++ " | None" else plain) := by
        split
        · simpa using drawn
        · exact drawn
      cases kind with
      | primitive =>
          cases primitive with
          | none =>
              rw [annotationOf]
              exact Ends.bind (Yields.fail _) fun _ drawn => stated drawn _
          | some scalar =>
              rw [annotationOf]
              exact stated (whole_scalarName scalar) _
      | reference | inlineEnum | anonymousObject =>
          rw [annotationOf]
          exact stated name _
      | array =>
          rw [annotationOf, annotationOfFirst_eq]
          cases first : arguments.head? with
          | none => exact Ends.bind (Yields.fail _) fun _ drawn => stated drawn _
          | some element =>
              simp only [pure_bind]
              apply Ends.bind (ih element (List.mem_of_head? first))
              exact fun drawn known => stated (by simpa using known) _
      | map =>
          rw [annotationOf, annotationOfLast_eq]
          cases last : arguments.getLast? with
          | none => exact Ends.bind (Yields.fail _) fun _ drawn => stated drawn _
          | some value =>
              simp only [pure_bind]
              apply Ends.bind (ih value (List.mem_of_getLast? last))
              exact fun drawn known => stated (by simpa using known) _
      | union =>
          rw [annotationOf]
          simp only [pure_bind]
          apply Ends.bind (collects_annotations.ends ih)
          exact fun members known =>
            stated (Text.whole_intercalate (Text.whole_ofString _) known) _
      | void =>
          rw [annotationOf]
          exact stated (Text.whole_ofString _) _
      | any =>
          rw [annotationOf]
          exact Ends.note_bind (stated (Text.whole_ofString _) _)

theorem annotation?_yields {type : Option TypeDescriptor}
    (whole : ∀ inner ∈ type, inner.Whole) :
    (annotation? type).Yields fun annotated => ∀ text ∈ annotated, text.Whole := by
  cases type with
  | none => exact nofun
  | some type =>
      apply Ends.bind (annotationOf_yields (whole type rfl))
      rintro annotated drawn _ ⟨⟩
      exact drawn

/-! ## Descriptions -/

/-- Lines that are all whole. -/
def WholeLines (lines : List Text) : Prop := ∀ line ∈ lines, line.Whole

@[simp] theorem wholeLines_nil : WholeLines [] := nofun

@[simp] theorem wholeLines_cons {line : Text} {lines : List Text} :
    WholeLines (line :: lines) ↔ line.Whole ∧ WholeLines lines :=
  List.forall_mem_cons

@[simp] theorem wholeLines_append {first second : List Text} :
    WholeLines (first ++ second) ↔ WholeLines first ∧ WholeLines second :=
  List.forall_mem_append

@[simp] theorem whole_emptyLine : emptyLine.Whole := Text.whole_nil

@[simp] theorem whole_tripleQuote : tripleQuote.Whole := Text.whole_ofString _

variable {description : Json} {indentation : Text} {lines : List Text}

theorem descriptionLines_whole (whole : description.Whole)
    (read : descriptionLines description = .ok lines) : WholeLines lines := by
  unfold descriptionLines at read
  split at read
  · split at read
    · rename_i value
      cases read
      have own := (Json.whole_text_iff.mp whole).strip.lines
      exact List.forall_mem_map.mpr fun line member => (own line member).dropEndWhile _
    · cases read
  · cases read
    exact nofun

theorem whole_commentLine {line : Text} (blank : indentation.Whole) (whole : line.Whole) :
    (commentLine indentation line).Whole := by
  rw [commentLine]
  split <;> simp [blank, whole]

theorem comments_whole (blank : indentation.Whole) (whole : description.Whole)
    (written : comments indentation description = .ok lines) : WholeLines lines := by
  obtain ⟨own, read, ended⟩ := bind_eq_ok_iff.mp written
  cases ended
  exact List.forall_mem_map.mpr fun line member =>
    whole_commentLine blank (descriptionLines_whole whole read line member)

theorem whole_escapeQuotes {line : Text} (whole : line.Whole) : (escapeQuotes line).Whole := by
  induction line using escapeQuotes.induct with
  | case1 rest ih =>
      rw [escapeQuotes]
      simp only [Text.whole_cons] at whole
      exact Text.whole_append.mpr ⟨Text.whole_ofString _, ih whole.2.2.2⟩
  | case2 symbol rest apart ih =>
      obtain ⟨single, later⟩ := Text.whole_cons.mp whole
      rw [escapeQuotes]
      · exact Text.whole_cons.mpr ⟨single, ih later⟩
      · exact apart
  | case3 => exact Text.whole_nil

theorem whole_escapeLine {line : Text} (whole : line.Whole) : (escapeLine line).Whole := by
  refine whole_escapeQuotes (Text.whole_flatMap fun symbol member => ?_)
  split
  · exact Text.whole_ofString _
  · exact List.forall_mem_singleton.mpr (whole symbol member)

theorem quotedLines_whole (blank : indentation.Whole) (whole : description.Whole)
    (written : quotedLines indentation description = .ok lines) : WholeLines lines := by
  obtain ⟨own, read, ended⟩ := bind_eq_ok_iff.mp written
  cases ended
  refine List.forall_mem_map.mpr fun line member => ?_
  have escaped := whole_escapeLine (descriptionLines_whole whole read line member)
  rw [indented]
  split
  · exact Text.whole_ofString ""
  · exact Text.whole_append.mpr ⟨blank, escaped⟩

/-! ## Enumerations -/

theorem whole_freshLabel {label : Text} (whole : label.Whole) (used : List Text) (rounds : Nat) :
    (freshLabel used rounds label).Whole := by
  induction rounds generalizing label with
  | zero => exact whole
  | succ rounds ih =>
      rw [freshLabel]
      split
      · exact ih (by simpa using whole)
      · exact whole

theorem whole_freshLabels (used : List Text) (members : List EnumMember) :
    ∀ label ∈ freshLabels used members, label.Whole := by
  induction members generalizing used with
  | nil => exact nofun
  | cons member members ih =>
      exact List.forall_mem_cons.mpr ⟨whole_freshLabel (whole_identifier _) _ _, ih _⟩

theorem memberLines_whole {label : Text} (labelled : label.Whole) {member : EnumMember}
    (described : member.description.Whole) (written : memberLines label member = .ok lines) :
    WholeLines lines := by
  obtain ⟨own, commented, ended⟩ := bind_eq_ok_iff.mp written
  cases ended
  have commented := comments_whole (Text.whole_ofString _) described commented
  simp [labelled, commented]

theorem membersLines_whole {members : List EnumMember}
    (described : ∀ member ∈ members, member.description.Whole)
    (written : membersLines ((freshLabels [] members).zip members) = .ok lines) :
    WholeLines lines := by
  refine concatenates_membersLines.forall_mem (fun pair member own => ?_) written
  obtain ⟨among, inside⟩ := List.of_mem_zip member
  exact memberLines_whole (whole_freshLabels [] members _ among) (described _ inside)

theorem wholeLines_enumDocumentation (isOpen : Bool) {described : List Text}
    (whole : WholeLines described) : WholeLines (enumDocumentation isOpen described) := by
  rw [enumDocumentation]
  split
  · exact wholeLines_nil
  · cases isOpen <;> cases described <;> simp_all [openEnumRemark]

theorem enumBody_yields {enumType : EnumType} (whole : enumType.Whole) :
    (enumBody enumType).Yields WholeLines := by
  have head : (enumHead enumType).Whole := by
    rw [enumHead]
    split <;> simp [whole.name]
  rw [enumBody]
  apply Ends.bind (Yields.ofExcept fun lines =>
    quotedLines_whole (Text.whole_ofString _) whole.described)
  intro described documented
  apply Ends.bind (Yields.ofExcept fun lines => membersLines_whole whole.descriptions)
  intro members rest
  have documentation := wholeLines_enumDocumentation enumType.isOpen documented
  show WholeLines (enumLines enumType described members)
  rw [enumLines]
  split <;> simp [head, documentation, rest]

theorem enumClass_yields {enumType : EnumType} (whole : enumType.Whole) :
    (enumClass enumType).Yields WholeLines := by
  rw [enumClass_eq]
  split
  · exact enumBody_yields whole
  · exact Ends.note_bind (enumBody_yields whole)

/-! ## Records -/

/-- A field whose parts are whole. -/
structure Field.Whole (field : Field) : Prop where
  name : field.name.Whole
  annotated : field.annotation.Whole
  initializer : ∀ value ∈ field.initializer, value.Whole

theorem whole_initializer (renamed : Bool) (property : RecordProperty) :
    ∀ value ∈ initializer renamed property, value.Whole := by
  intro value bound
  unfold initializer at bound
  split at bound
  · split at bound <;> cases bound <;> simp
  · split at bound
    · cases bound
    · cases bound
      exact Text.whole_ofString _

theorem fieldOf_yields {property : RecordProperty} (whole : property.type.Whole) :
    (fieldOf property).Yields Field.Whole := by
  have typed := annotationOf_yields whole
  simp only [fieldOf]
  split
  · refine Ends.note_bind (Ends.note_bind (typed.bind fun annotated drawn => ?_))
    exact ⟨whole_identifier _, drawn, whole_initializer _ _⟩
  · refine typed.bind fun annotated drawn => ?_
    exact ⟨whole_identifier _, drawn, whole_initializer _ _⟩

theorem Field.Whole.line {field : Field} (whole : field.Whole) : field.line.Whole := by
  rw [Field.line]
  cases bound : field.initializer with
  | none => simp [whole.name, whole.annotated]
  | some value => simp [whole.name, whole.annotated, whole.initializer value bound]

theorem wholeLines_suggestionLines {property : RecordProperty} (whole : property.type.Whole) :
    WholeLines (suggestionLines property) := by
  obtain ⟨_, suggested, _⟩ := whole
  rw [suggestionLines]
  split
  · rename_i name held
    split
    · exact wholeLines_nil
    · simp [suggested name held]
  · exact wholeLines_nil

theorem ownFieldLines_whole {pair : RecordProperty × Field} (typed : pair.1.type.Whole)
    (described : pair.1.description.Whole) (whole : pair.2.Whole)
    (written : ownFieldLines pair = .ok lines) : WholeLines lines := by
  obtain ⟨own, commented, ended⟩ := bind_eq_ok_iff.mp written
  cases ended
  have commented := comments_whole (Text.whole_ofString _) described commented
  simp [commented, wholeLines_suggestionLines typed, whole.line]

theorem fieldLines_whole {record : Record} (whole : record.Whole) {fields : List Field}
    (bound : ∀ field ∈ fields, field.Whole)
    (written : fieldLines (record.properties.zip fields) = .ok lines) : WholeLines lines := by
  refine concatenates_fieldLines.forall_mem (fun pair member own => ?_) written
  obtain ⟨inside, among⟩ := List.of_mem_zip member
  exact ownFieldLines_whole (whole.types _ inside) (whole.descriptions _ inside) (bound _ among)

theorem whole_recordHead {record : Record} (whole : record.Whole) : (recordHead record).Whole := by
  rw [recordHead]
  split
  · rename_i base held
    split <;> simp [whole.name, whole.base base held]
  · simp [whole.name]

theorem recordClass_yields {record : Record} (whole : record.Whole) :
    (recordClass record).Yields WholeLines := by
  rw [recordClass]
  refine Ends.note_bind (Ends.note_bind ?_)
  apply Ends.bind (collects_fieldsOf.ends fun property member =>
    fieldOf_yields (whole.types property member))
  intro fields bound
  apply Ends.bind (Yields.ofExcept fun lines =>
    quotedLines_whole (Text.whole_ofString _) whole.described)
  intro described documented
  apply Ends.bind (Yields.ofExcept fun lines => fieldLines_whole whole bound)
  intro lines rest
  have documentation : WholeLines (recordDocumentation described) := by
    rw [recordDocumentation]
    split <;> simp [documented]
  show WholeLines (recordLines record described lines)
  rw [recordLines]
  split <;> simp [whole_recordHead whole, documentation, rest]

/-! ## Interfaces -/

/-- A method whose parts are whole. -/
structure Method.Whole (method : Method) : Prop where
  name : method.name.Whole
  wireName : method.wireName.Whole
  arguments : ∀ text ∈ method.arguments, text.Whole
  returns : method.returns.Whole
  described : method.description.Whole
  returnsDescribed : method.returnsDescription.Whole

theorem requestMethod_yields {request : Request} (whole : request.Whole) :
    (requestMethod request).Yields Method.Whole := by
  rw [requestMethod]
  apply Ends.bind (annotation?_yields whole.arguments)
  intro arguments argued
  have named := whole_identifier request.command
  cases returned : request.returns with
  | none =>
      exact Ends.bind (Yields.fail _) fun returns drawn =>
        ⟨named, whole.command, argued, drawn, whole.described, whole.responseDescribed⟩
  | some type =>
      exact Ends.bind (annotationOf_yields (whole.returns type returned)) fun returns drawn =>
        ⟨named, whole.command, argued, drawn, whole.described, whole.responseDescribed⟩

theorem eventMethod_yields {event : Event} (whole : event.Whole) :
    (eventMethod event).Yields Method.Whole := by
  rw [eventMethod]
  apply Ends.bind (annotation?_yields whole.body)
  intro arguments argued
  exact ⟨whole_identifier _, whole.announced, argued, Text.whole_ofString _, whole.described, .null⟩

theorem whole_methodHead {method : Method} (whole : method.Whole) :
    (methodHead method).Whole := by
  rw [methodHead]
  cases held : method.arguments with
  | none => simp [whole.name, whole.returns]
  | some annotated =>
      dsimp only
      split <;> simp [whole.name, whole.returns, whole.arguments annotated held]

theorem wholeLines_methodDocumentation {described result : List Text}
    (own : WholeLines described) (returned : WholeLines result) :
    WholeLines (methodDocumentation described result) := by
  rw [methodDocumentation]
  split
  · exact wholeLines_nil
  · cases described <;> cases result <;> simp_all [returnsHeading]

theorem methodLines_whole {method : Method} (whole : method.Whole)
    (written : methodLines method = .ok lines) : WholeLines lines := by
  simp only [methodLines, bind_eq_ok_iff] at written
  obtain ⟨described, quoted, result, returned, ended⟩ := written
  cases ended
  have own := quotedLines_whole (Text.whole_ofString _) whole.described quoted
  have result := quotedLines_whole (Text.whole_ofString _) whole.returnsDescribed returned
  have named : WholeLines (wireNameLines method) := by
    rw [wireNameLines]
    split <;> simp [whole.wireName]
  simp [named, whole_methodHead whole, wholeLines_methodDocumentation own result, stub]

theorem methodsLines_whole {methods : List Method} (whole : ∀ method ∈ methods, method.Whole)
    (written : methodsLines methods = .ok lines) : WholeLines lines :=
  concatenates_methodsLines.forall_mem
    (fun method member _ => methodLines_whole (whole method member)) written

theorem interfaceClass_yields {name description : Text} (named : name.Whole)
    (described : description.Whole) {methods : List Method}
    (whole : ∀ method ∈ methods, method.Whole) :
    (interfaceClass name description methods).Yields WholeLines := by
  rw [interfaceClass]
  apply Ends.note_bind
  apply Ends.bind (Yields.ofExcept fun lines => methodsLines_whole whole)
  intro lines rest
  show WholeLines (_ :: _ :: lines)
  simp [named, described, rest]

theorem interfaceOf_yields {α : Type} {name : Json} (named : name.Whole) {description : Text}
    (described : description.Whole) {method : α → Rendering Method} {operations : List α}
    (each : ∀ operation ∈ operations, (method operation).Yields Method.Whole) :
    (interfaceOf name description method operations).Yields WholeLines := by
  rw [interfaceOf]
  split
  · exact wholeLines_nil
  · apply Ends.bind ((collects_methodsOf method).ends each)
    intro methods bound
    apply Ends.bind (interfaceClass_yields named.display described bound)
    intro lines rest
    show WholeLines (spaced lines)
    simp [spaced, rest]

/-! ## Code -/

theorem classesOf_yields {α : Type} {render : α → Rendering (List Text)} {parts : List α}
    (each : ∀ part ∈ parts, (render part).Yields WholeLines) :
    (classesOf render parts).Yields WholeLines := by
  induction parts with
  | nil => exact wholeLines_nil
  | cons part parts ih =>
      obtain ⟨own, later⟩ := List.forall_mem_cons.mp each
      rw [classesOf]
      apply Ends.bind own
      intro first drawn
      apply Ends.bind (ih later)
      intro others rest
      show WholeLines (spaced first ++ others)
      simp [spaced, drawn, rest]

variable {config : Config} {model : Model} {comment code : Text}

theorem modelLines_yields (names : config.NamesWhole) (whole : model.Whole) :
    (modelLines config model).Yields WholeLines := by
  rw [modelLines]
  apply Ends.note_bind
  apply Ends.bind (classesOf_yields fun enumType member => ?_)
  · intro enumTypes first
    apply Ends.bind (classesOf_yields fun record member => ?_)
    · intro records second
      apply Ends.bind (interfaceOf_yields names.server (Text.whole_ofString _)
        fun request member => requestMethod_yields (whole.requests request member))
      intro server third
      apply Ends.bind (interfaceOf_yields names.client (Text.whole_ofString _)
        fun event member => eventMethod_yields (whole.events event member))
      intro client fourth
      show WholeLines (enumTypes ++ records ++ server ++ client)
      simp [first, second, third, fourth]
    · obtain ⟨entity, among, own⟩ :=
        List.mem_filterMap.mp (mem_of_mem_orderRecords record member)
      have known := whole.entities entity among
      cases entity with
      | enumType content => cases own
      | record content =>
          cases own
          exact recordClass_yields known
  · obtain ⟨entity, among, own⟩ :=
      List.mem_filterMap.mp ((orderEnums_perm model.enumTypes).mem_iff.mp member)
    have known := whole.entities entity among
    cases entity with
    | record content => cases own
    | enumType content =>
        cases own
        exact enumClass_yields known

theorem wholeLines_headLines (whole : comment.Whole) (imports : List Import) (version : Json) :
    WholeLines (headLines comment imports version) := by
  have commented : WholeLines (comment.lines.map (commentLine "")) :=
    List.forall_mem_map.mpr fun line member =>
      whole_commentLine (Text.whole_ofString "") (whole.lines line member)
  have imported : WholeLines ((importLines imports).map Text.ofString) :=
    List.forall_mem_map.mpr fun line _ => Text.whole_ofString line
  rw [headLines]
  simp [commented, imported]

/-- The code of a whole model below a whole comment is whole. -/
theorem moduleText_whole (names : config.NamesWhole) (whole : model.Whole)
    (above : comment.Whole) (rendered : (moduleText config model comment).outcome = .ok code) :
    code.Whole := by
  have lines := modelLines_yields names whole
  obtain ⟨body, ended, rfl⟩ := moduleText_ok_iff.mp rendered
  have written : (joinLines (headLines comment (modelLines config model).trail model.version ++
      body)).Whole := by
    refine Text.whole_flatMap fun line member => ?_
    have own := wholeLines_append.mpr
      ⟨wholeLines_headLines above _ model.version, lines.of_ok ended⟩ line member
    exact Text.whole_append.mpr ⟨own, Text.whole_ofString _⟩
  exact Text.whole_append.mpr ⟨written.dropEndWhile _, Text.whole_ofString _⟩

end ProtocolBindings.Bindings
