import ProtocolBindings.Proofs.Bindings.OptionalFields

/-!
# Unambiguity of annotations

An annotation says everything about a type but which values are suggested for a text, whether any
value includes null, and how a named type came to be.  Two types that differ in more have
different annotations: what stands in brackets is the annotation of the type inside, the
alternatives stand in the order of the union, and the alternative None stands behind all that it
extends.
-/

namespace ProtocolBindings

namespace Model

/-- The kind for which an annotation stands: a named type is a reference to its class. -/
def TypeKind.canonical : TypeKind → TypeKind
  | .inlineEnum | .anonymousObject => .reference
  | kind => kind

namespace TypeDescriptor

variable {type : TypeDescriptor}

mutual

/-- What the annotation of a descriptor says: whether any value includes null, the kind of a named
type and the suggested values are left out. -/
def canonical : TypeDescriptor → TypeDescriptor
  | ⟨kind, primitive, name, arguments, nullable, _⟩ =>
      { kind := kind.canonical
        primitive := primitive
        name := name
        arguments := canonicalAll arguments
        nullable := nullable && kind ≠ .any }

/-- What the annotations of some descriptors say. -/
def canonicalAll : List TypeDescriptor → List TypeDescriptor
  | [] => []
  | first :: rest => first.canonical :: canonicalAll rest

end

theorem canonical_of_ne_any (kind : TypeKind) (limited : kind ≠ .any)
    (primitive : Option PrimitiveType) (name : Text) (arguments : List TypeDescriptor)
    (nullable : Bool) (openEnum : Option Text) :
    canonical ⟨kind, primitive, name, arguments, nullable, openEnum⟩ =
      ⟨kind.canonical, primitive, name, canonicalAll arguments, nullable, none⟩ := by
  rw [canonical, decide_eq_true limited, Bool.and_true]

theorem canonicalAll_scalars (members : List PrimitiveType) :
    canonicalAll (members.map (scalar · false)) = members.map (scalar · false) := by
  induction members with
  | nil => rw [List.map_nil, canonicalAll]
  | cons first rest ih =>
      rw [List.map_cons, canonicalAll, ih, scalar, canonical_of_ne_any .primitive (by decide),
        canonicalAll]
      rfl

theorem scalar_injective (nullable : Bool) : Function.Injective (scalar · nullable) :=
  fun _ _ same => Option.some.inj (congrArg primitive same)

/-- Everything inside a descriptor is a variant. -/
def Closed (type : TypeDescriptor) : Prop := ∀ part ∈ type.parts, part.IsVariant

theorem Closed.own (closed : type.Closed) : type.IsVariant :=
  closed type (type.parts_eq ▸ List.mem_cons_self)

theorem parts_subset_of_argument {argument : TypeDescriptor} (member : argument ∈ type.arguments) :
    argument.parts ⊆ type.parts := by
  intro part inside
  rw [type.parts_eq]
  exact List.mem_cons_of_mem _ (List.mem_flatMap.mpr ⟨argument, member, inside⟩)

theorem Closed.argument {argument : TypeDescriptor} (closed : type.Closed)
    (member : argument ∈ type.arguments) : argument.Closed :=
  fun part inside => closed part (parts_subset_of_argument member inside)

theorem WellFormed.closed (formed : type.WellFormed) : type.Closed :=
  fun part member => (formed.parts part member).isVariant

namespace IsVariant

variable (variant : type.IsVariant)

include variant

theorem primitive_eq_none (other : type.kind ≠ .primitive) : type.primitive = none :=
  Decidable.byContradiction fun present => other (variant.primitive.mp present)

theorem name_eq_empty (unnamed : ¬(type.kind = .reference ∨ type.kind = .inlineEnum ∨
    type.kind = .anonymousObject)) : type.name = "" :=
  Decidable.byContradiction fun present => unnamed (variant.name present)

theorem arguments_eq_nil (plain : ¬(type.kind = .array ∨ type.kind = .map ∨
    type.kind = .union)) : type.arguments = [] :=
  Decidable.byContradiction fun present => plain (variant.arguments present)

end IsVariant

end TypeDescriptor

end Model

namespace Bindings

open Model

/-! ## Names -/

/-- The names that annotations use for types that are no classes. -/
def builtinNames : List Text := ["str", "int", "float", "bool", "list", "dict", "Any", "None"]

/-- The entities that a type names can be named, and no type has its name already. -/
structure NamesClasses (type : TypeDescriptor) : Prop where
  usable : NamesIdentifiers type
  apart : ∀ part ∈ type.parts, part.name ∉ builtinNames

theorem NamesClasses.argument {type argument : TypeDescriptor} (names : NamesClasses type)
    (member : argument ∈ type.arguments) : NamesClasses argument := by
  have within := TypeDescriptor.parts_subset_of_argument member
  exact ⟨fun part inside => names.usable part (within inside),
    fun part inside => names.apart part (within inside)⟩

theorem NamesClasses.own {type : TypeDescriptor} (names : NamesClasses type) :
    type.name ∉ builtinNames :=
  names.apart type (type.parts_eq ▸ List.mem_cons_self)

/-! ## Alternatives -/

/-- The annotation of a union of scalars. -/
def alternatives (members : List PrimitiveType) : Text :=
  List.intercalate " | " (members.map scalarName)

theorem alternatives_singleton (only : PrimitiveType) : alternatives [only] = scalarName only :=
  List.intercalate_singleton ..

theorem alternatives_cons_cons (first second : PrimitiveType) (rest : List PrimitiveType) :
    alternatives (first :: second :: rest) =
      scalarName first ++ (Text.ofString " | " ++ alternatives (second :: rest)) := by
  rw [alternatives, List.map_cons, List.map_cons, List.intercalate_cons_cons, List.append_assoc]
  rfl

theorem scalarName_injective {first second : PrimitiveType}
    (same : scalarName first = scalarName second) : first = second := by
  cases first <;> cases second <;> first | rfl | exact absurd same (by decide)

/-- The first alternative ends at the first blank. -/
theorem takeWhile_alternatives (first : PrimitiveType) (rest : List PrimitiveType) :
    (alternatives (first :: rest)).takeWhile (· ≠ .char ' ') = scalarName first := by
  have word : ∀ symbol ∈ scalarName first, decide (symbol ≠ .char ' ') = true := by
    cases first <;> decide
  cases rest with
  | nil => rw [alternatives_singleton, List.takeWhile_eq_self_iff.mpr word]
  | cons second rest =>
      rw [alternatives_cons_cons, List.takeWhile_append_of_pos word]
      exact List.append_nil _

/-- The alternatives are had back in their order. -/
theorem alternatives_injective {first second : List PrimitiveType}
    (same : alternatives first = alternatives second) : first = second := by
  have named (only : PrimitiveType) : [] ≠ scalarName only := by cases only <;> decide
  induction first generalizing second with
  | nil =>
      cases second with
      | nil => rfl
      | cons other others =>
          have word := congrArg (List.takeWhile (· ≠ .char ' ')) same
          rw [takeWhile_alternatives] at word
          exact absurd word (named other)
  | cons first rest ih =>
      cases second with
      | nil =>
          have word := congrArg (List.takeWhile (· ≠ .char ' ')) same
          rw [takeWhile_alternatives] at word
          exact absurd word.symm (named first)
      | cons other others =>
          have word := congrArg (List.takeWhile (· ≠ .char ' ')) same
          rw [takeWhile_alternatives, takeWhile_alternatives] at word
          obtain rfl := scalarName_injective word
          -- Behind a common first alternative there are others on both sides or on none.
          cases rest with
          | nil =>
              cases others with
              | nil => rfl
              | cons second others =>
                  rw [alternatives_singleton, alternatives_cons_cons] at same
                  exact absurd (List.append_right_eq_self.mp same.symm) nofun
          | cons second rest =>
              cases others with
              | nil =>
                  rw [alternatives_singleton, alternatives_cons_cons] at same
                  exact absurd (List.append_right_eq_self.mp same) nofun
              | cons third others =>
                  rw [alternatives_cons_cons, alternatives_cons_cons] at same
                  rw [ih (List.append_cancel_left (List.append_cancel_left same))]

theorem mem_alternatives {members : List PrimitiveType} {symbol : Symbol}
    (member : symbol ∈ alternatives members) :
    symbol ∈ Text.ofString " | " ∨ ∃ type, symbol ∈ scalarName type := by
  induction members with
  | nil => cases member
  | cons first rest ih =>
      cases rest with
      | nil => exact .inr ⟨first, by rwa [alternatives_singleton] at member⟩
      | cons second rest =>
          rw [alternatives_cons_cons, List.mem_append, List.mem_append] at member
          rcases member with own | between | later
          · exact .inr ⟨first, own⟩
          · exact .inl between
          · exact ih later

/-! ## What annotations say -/

/-- What the annotation of a type says where null is left out. -/
inductive Means : TypeDescriptor → Text → Prop where
  | any : Means .any "Any"
  | void : Means .void "None"
  | scalar (type : PrimitiveType) (nullable : Bool) :
      Means (.scalar type nullable) (scalarName type)
  | reference {name : Text} (usable : IsIdentifier name) (apart : name ∉ builtinNames)
      (nullable : Bool) : Means (.reference name nullable) name
  | arrayOf {element : TypeDescriptor} {plain : Text} (inner : Means element plain)
      (nullable : Bool) :
      Means (.arrayOf element nullable) (Text.ofString "list[" ++ withNone element plain ++ "]")
  | mapOf {value : TypeDescriptor} {plain : Text} (inner : Means value plain) (nullable : Bool) :
      Means (.mapOf value nullable) (Text.ofString "dict[str, " ++ withNone value plain ++ "]")
  | unionOf {members : List PrimitiveType} (several : 2 ≤ members.length) (nullable : Bool) :
      Means (.unionOf members nullable) (alternatives members)

namespace Means

variable {type left right : TypeDescriptor} {plain other : Text}

theorem plainAnnotation (means : Means type plain) : PlainAnnotation plain := by
  induction means with
  | any => exact ⟨by decide, fun ends => absurd ends.length_le (by decide)⟩
  | void => exact ⟨by decide, fun ends => absurd ends.length_le (by decide)⟩
  | scalar type nullable => exact plainAnnotation_scalar type
  | reference usable apart nullable => exact plainAnnotation_identifier usable
  | arrayOf inner nullable ih => exact plainAnnotation_bracketed (by decide) (ih.symbols_withNone _)
  | mapOf inner nullable ih => exact plainAnnotation_bracketed (by decide) (ih.symbols_withNone _)
  | unionOf several nullable =>
      apply plainAnnotation_alternatives
      rintro rfl
      cases several

end Means

/-- The kind of type that an annotation means: brackets and bars stand in no name, and what opens
brackets tells arrays from mappings. -/
def kindMeant (plain : Text) : TypeKind :=
  if .char '[' ∈ plain then if plain.head? = some (.char 'l') then .array else .map
  else if .char '|' ∈ plain then .union
  else if plain ∈ builtinNames then
    if plain = "Any" then .any else if plain = "None" then .void else .primitive
  else .reference

theorem kindMeant_of_plain {plain : Text} (unbracketed : Symbol.char '[' ∉ plain)
    (single : Symbol.char '|' ∉ plain) : kindMeant plain =
      if plain ∈ builtinNames then
        if plain = "Any" then .any else if plain = "None" then .void else .primitive
      else .reference := by
  rw [kindMeant, if_neg unbracketed, if_neg single]

namespace Means

variable {type left right : TypeDescriptor} {plain other : Text}

theorem kind_eq (means : Means type plain) : type.kind = kindMeant plain := by
  cases means with
  | any => decide
  | void => decide
  | scalar type nullable => cases type <;> rfl
  | reference usable apart nullable =>
      have unbracketed : Symbol.char '[' ∉ plain :=
        fun member => absurd (usable.symbols _ member) (by decide)
      have single : Symbol.char '|' ∉ plain :=
        fun member => absurd (usable.symbols _ member) (by decide)
      rw [kindMeant_of_plain unbracketed single, if_neg apart]
      rfl
  | arrayOf inner nullable => rfl
  | mapOf inner nullable => rfl
  | @unionOf members several nullable =>
      have unbracketed : Symbol.char '[' ∉ alternatives members := by
        intro member
        rcases mem_alternatives member with between | ⟨type, own⟩
        · exact absurd between (by decide)
        · cases type <;> exact absurd own (by decide)
      have barred : Symbol.char '|' ∈ alternatives members := by
        match members, several with
        | first :: second :: rest, _ =>
            rw [alternatives_cons_cons]
            exact List.mem_append_right _ (List.mem_append_left _ (by decide))
      rw [kindMeant, if_neg unbracketed, if_pos barred]
      rfl

/-- The alternative None is told from what it extends, and what it extends says the kind. -/
theorem eq_of_withNone (means : Means left plain) (also : Means right other)
    (same : withNone left plain = withNone right other) :
    plain = other ∧ left.kind = right.kind ∧
      (statesNull left.kind = true → left.nullable = right.nullable) := by
  have leftUnended := means.plainAnnotation.unended
  have rightUnended := also.plainAnnotation.unended
  have both : plain = other ∧
      (left.nullable && statesNull left.kind) = (right.nullable && statesNull right.kind) := by
    rw [withNone, withNone] at same
    split at same <;> split at same
    · rename_i leftStated rightStated
      exact ⟨List.append_cancel_right same, leftStated.trans rightStated.symm⟩
    · exact absurd ⟨plain, same⟩ rightUnended
    · exact absurd ⟨other, same.symm⟩ leftUnended
    · rename_i leftUnstated rightUnstated
      exact ⟨same, (Bool.eq_false_iff.mpr leftUnstated).trans
        (Bool.eq_false_iff.mpr rightUnstated).symm⟩
  obtain ⟨rfl, nulls⟩ := both
  have kinds : left.kind = right.kind := means.kind_eq.trans also.kind_eq.symm
  refine ⟨rfl, kinds, fun stated => ?_⟩
  rwa [← kinds, stated, Bool.and_true, Bool.and_true] at nulls

/-- An annotation means one type. -/
theorem unique (means : Means left plain) (also : Means right other)
    (same : withNone left plain = withNone right other) : left = right := by
  -- What stands in brackets is again the annotation of a type.
  induction means generalizing right other with
  | any =>
      obtain ⟨-, kinds, -⟩ := eq_of_withNone .any also same
      cases also with
      | any => rfl
      | _ => cases kinds
  | void =>
      obtain ⟨-, kinds, -⟩ := eq_of_withNone .void also same
      cases also with
      | void => rfl
      | _ => cases kinds
  | scalar type nullable =>
      obtain ⟨plains, kinds, nulls⟩ := eq_of_withNone (.scalar type nullable) also same
      cases also with
      | scalar other otherNullable =>
          rw [scalarName_injective plains, show nullable = _ from nulls rfl]
          rfl
      | _ => cases kinds
  | reference usable apart nullable =>
      obtain ⟨plains, kinds, nulls⟩ := eq_of_withNone (.reference usable apart nullable) also same
      cases also with
      | reference _ _ otherNullable => rw [plains, show nullable = _ from nulls rfl]; rfl
      | _ => cases kinds
  | arrayOf inner nullable ih =>
      obtain ⟨plains, kinds, nulls⟩ := eq_of_withNone (.arrayOf inner nullable) also same
      cases also with
      | arrayOf otherInner otherNullable =>
          have inside := List.append_cancel_left (List.append_cancel_right plains)
          rw [ih otherInner inside, show nullable = _ from nulls rfl]; rfl
      | _ => cases kinds
  | mapOf inner nullable ih =>
      obtain ⟨plains, kinds, nulls⟩ := eq_of_withNone (.mapOf inner nullable) also same
      cases also with
      | mapOf otherInner otherNullable =>
          have inside := List.append_cancel_left (List.append_cancel_right plains)
          rw [ih otherInner inside, show nullable = _ from nulls rfl]; rfl
      | _ => cases kinds
  | unionOf several nullable =>
      obtain ⟨plains, kinds, nulls⟩ := eq_of_withNone (.unionOf several nullable) also same
      cases also with
      | unionOf otherSeveral otherNullable =>
          rw [alternatives_injective plains, show nullable = _ from nulls rfl]; rfl
      | _ => cases kinds

/-- A type has one annotation. -/
theorem plain_unique (means : Means type plain) (also : Means type other) : plain = other := by
  induction means generalizing other with
  | any =>
      cases also
      rfl
  | void =>
      cases also
      rfl
  | scalar type nullable =>
      cases also
      rfl
  | reference usable apart nullable =>
      cases also
      rfl
  | arrayOf inner nullable ih =>
      cases also with
      | arrayOf otherInner _ => rw [ih otherInner]
  | mapOf inner nullable ih =>
      cases also with
      | mapOf otherInner _ => rw [ih otherInner]
  | unionOf several nullable =>
      generalize held : TypeDescriptor.unionOf _ nullable = type at also
      cases also with
      | unionOf otherSeveral _ =>
          have lists := congrArg TypeDescriptor.arguments held
          rw [List.map_injective_iff.mpr (TypeDescriptor.scalar_injective false) lists]
      | _ => cases held

end Means

/-- The annotation of a type is a name. -/
theorem means_named {kind : TypeKind} (named : kind.canonical = .reference) {name : Text}
    (usable : IsIdentifier name) (apart : name ∉ builtinNames) (nullable : Bool)
    (openEnum : Option Text) :
    Means (TypeDescriptor.canonical ⟨kind, none, name, [], nullable, openEnum⟩) name ∧
      (annotationOf ⟨kind, none, name, [], nullable, openEnum⟩).outcome =
        .ok (withNone (TypeDescriptor.canonical ⟨kind, none, name, [], nullable, openEnum⟩)
          name) := by
  have limited : kind ≠ .any := by
    rintro rfl
    cases named
  rw [TypeDescriptor.canonical_of_ne_any kind limited, TypeDescriptor.canonicalAll, named]
  refine ⟨.reference usable apart nullable, ?_⟩
  cases kind with
  | reference | inlineEnum | anonymousObject =>
      rw [annotationOf]
      rfl
  | _ => cases named

/-- A closed type that names classes has an annotation, which means the type. -/
theorem exists_means {type : TypeDescriptor} (closed : type.Closed) (names : NamesClasses type) :
    ∃ plain, Means type.canonical plain ∧
      (annotationOf type).outcome = .ok (withNone type.canonical plain) := by
  induction type using TypeDescriptor.induct with
  | each type ih =>
      have variant := closed.own
      have apart := names.own
      have usable := names.usable.own
      replace ih : ∀ argument ∈ type.arguments, ∃ plain, Means argument.canonical plain ∧
          (annotationOf argument).outcome = .ok (withNone argument.canonical plain) :=
        fun argument member => ih argument member (closed.argument member) (names.argument member)
      obtain ⟨kind, primitive, name, arguments, nullable, openEnum⟩ := type
      cases kind with
      | primitive =>
          obtain ⟨scalar, rfl⟩ := Option.ne_none_iff_exists'.mp (variant.primitive.mpr rfl)
          obtain rfl := variant.name_eq_empty (by simp)
          obtain rfl := variant.arguments_eq_nil (by simp)
          rw [TypeDescriptor.canonical_of_ne_any .primitive (by decide),
            TypeDescriptor.canonicalAll, annotationOf]
          exact ⟨_, .scalar scalar nullable, rfl⟩
      | reference | inlineEnum | anonymousObject =>
          obtain rfl := variant.primitive_eq_none (by simp)
          obtain rfl := variant.arguments_eq_nil (by simp)
          exact ⟨name, means_named rfl (usable (by simp)) apart nullable openEnum⟩
      | array =>
          obtain ⟨element, rfl⟩ := variant.array rfl
          obtain rfl := variant.primitive_eq_none (by simp)
          obtain rfl := variant.name_eq_empty (by simp)
          obtain ⟨plain, inner, ended⟩ := ih element List.mem_cons_self
          rw [TypeDescriptor.canonical_of_ne_any .array (by decide), TypeDescriptor.canonicalAll,
            TypeDescriptor.canonicalAll, annotationOf, annotationOfFirst,
            Traced.bind_of_ok _ ended]
          exact ⟨_, .arrayOf inner nullable, rfl⟩
      | map =>
          obtain ⟨value, rfl⟩ := variant.map rfl
          obtain rfl := variant.primitive_eq_none (by simp)
          obtain rfl := variant.name_eq_empty (by simp)
          obtain ⟨plain, inner, ended⟩ := ih value (List.mem_cons_of_mem _ List.mem_cons_self)
          rw [TypeDescriptor.canonical_of_ne_any .map (by decide), TypeDescriptor.canonicalAll,
            TypeDescriptor.canonicalAll, TypeDescriptor.canonicalAll, annotationOf,
            annotationOfLast, annotationOfLast, Traced.bind_of_ok _ ended]
          exact ⟨_, .mapOf inner nullable, rfl⟩
      | union =>
          obtain ⟨members, rfl, -, several, -⟩ := variant.union rfl
          obtain rfl := variant.primitive_eq_none (by simp)
          obtain rfl := variant.name_eq_empty (by simp)
          rw [TypeDescriptor.canonical_of_ne_any .union (by decide),
            TypeDescriptor.canonicalAll_scalars, annotationOf,
            Traced.bind_of_ok _ (outcome_annotations_scalars members)]
          exact ⟨_, .unionOf several nullable, rfl⟩
      | any =>
          obtain rfl := variant.primitive_eq_none (by simp)
          obtain rfl := variant.name_eq_empty (by simp)
          obtain rfl := variant.arguments_eq_nil (by simp)
          rw [TypeDescriptor.canonical, TypeDescriptor.canonicalAll, annotationOf]
          cases nullable <;> exact ⟨_, .any, rfl⟩
      | void =>
          obtain rfl := variant.primitive_eq_none (by simp)
          obtain rfl := variant.name_eq_empty (by simp)
          obtain rfl := variant.arguments_eq_nil (by simp)
          obtain rfl : nullable = false := variant.void rfl
          rw [TypeDescriptor.canonical_of_ne_any .void (by decide), TypeDescriptor.canonicalAll,
            annotationOf]
          exact ⟨_, .void, rfl⟩

/-- Closed types that name classes have annotations, and these are equal exactly if the types are,
apart from what no annotation says. -/
theorem annotated_eq_iff_canonical {left right : TypeDescriptor} (leftClosed : left.Closed)
    (leftNames : NamesClasses left) (rightClosed : right.Closed)
    (rightNames : NamesClasses right) :
    ∃ leftText rightText, (annotationOf left).outcome = .ok leftText ∧
      (annotationOf right).outcome = .ok rightText ∧
      (leftText = rightText ↔ left.canonical = right.canonical) := by
  obtain ⟨plain, means, ended⟩ := exists_means leftClosed leftNames
  obtain ⟨other, also, otherEnded⟩ := exists_means rightClosed rightNames
  refine ⟨_, _, ended, otherEnded, means.unique also, fun same => ?_⟩
  rw [← same] at also ⊢
  rw [means.plain_unique also]

/-- The alternative None of an element is not that of the array. -/
theorem annotated_eq_iff_nullablePoints :
    let points : TypeDescriptor := .arrayOf (.reference "Point" true) false
    let noPoints : TypeDescriptor := .arrayOf (.inlineEnum "Point" false) true
    points.Closed ∧ NamesClasses points ∧ noPoints.Closed ∧ NamesClasses noPoints ∧
      ∃ leftText rightText, (annotationOf points).outcome = .ok leftText ∧
        (annotationOf noPoints).outcome = .ok rightText ∧
        (leftText = rightText ↔ points.canonical = noPoints.canonical) := by
  intro points noPoints
  have closed : points.Closed :=
    (TypeDescriptor.WellFormed.arrayOf false (.reference _ true)).closed
  have alsoClosed : noPoints.Closed :=
    (TypeDescriptor.WellFormed.arrayOf true (.inlineEnum _ false)).closed
  have names : NamesClasses points :=
    ⟨by unfold NamesIdentifiers; decide +kernel, by decide +kernel⟩
  have alsoNames : NamesClasses noPoints :=
    ⟨by unfold NamesIdentifiers; decide +kernel, by decide +kernel⟩
  exact ⟨closed, names, alsoClosed, alsoNames,
    annotated_eq_iff_canonical closed names alsoClosed alsoNames⟩

end Bindings

end ProtocolBindings
