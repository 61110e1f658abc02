import Mathlib.Logic.Relation
import ProtocolBindings.Proofs.Json.Reader
import ProtocolBindings.Proofs.Schema.Definitions
import ProtocolBindings.Proofs.Schema.Parts

/-!
# Routes through documents

The path of a node spells a route through the document, and following the route leads to the
object that the node was read of.  A node that is located in this way has only located nodes
inside it, so that all nodes of the definitions of a document are located.
-/

namespace ProtocolBindings

/-! ## Pointers -/

namespace Json

/-- One step from a value to a part of it. -/
inductive Segment where
  | key (name : Text)
  | index (position : Nat)

/-- How a segment is written in a path. -/
def Segment.text : Segment → Text
  | .key name => name
  | .index position => Nat.repr position

/-- The part of a value that a segment leads to. -/
def child? : Json → Segment → Option Json
  | .object members, .key name => lookup name members
  | .array items, .index position => items[position]?
  | _, _ => none

/-- The part of a value that segments lead to, one after another. -/
def descendant? (value : Json) (segments : List Segment) : Option Json :=
  segments.foldlM child? value

theorem descendant?_append (value : Json) (front back : List Segment) :
    value.descendant? (front ++ back) =
      (value.descendant? front).bind fun inner => inner.descendant? back :=
  List.foldlM_append

theorem descendant?_cons (value : Json) (segment : Segment) (segments : List Segment) :
    value.descendant? (segment :: segments) =
      (value.child? segment).bind fun inner => inner.descendant? segments :=
  List.foldlM_cons

theorem descendant?_singleton (value : Json) (segment : Segment) :
    value.descendant? [segment] = value.child? segment := by
  rw [descendant?_cons]
  exact Option.bind_fun_some _

theorem DistinctKeys.child {value inner : Json} {segment : Segment}
    (distinct : value.DistinctKeys) (found : value.child? segment = some inner) :
    inner.DistinctKeys := by
  unfold child? at found
  split at found
  · exact (distinctKeys_object_iff.mp distinct).2 _ (mem_of_lookup found)
  · exact distinctKeys_array_iff.mp distinct inner (List.mem_of_getElem? found)
  · cases found

theorem DistinctKeys.descendant {value inner : Json} {segments : List Segment}
    (distinct : value.DistinctKeys) (found : value.descendant? segments = some inner) :
    inner.DistinctKeys := by
  induction segments generalizing value with
  | nil =>
      cases found
      exact distinct
  | cons segment segments ih =>
      obtain ⟨middle, first, rest⟩ := Option.bind_eq_some_iff.mp found
      exact ih (distinct.child first) rest

end Json

namespace Schema

open Json (DistinctKeys Segment lookup field)
open Relation (ReflTransGen)

/-! ## Routes -/

/-- A step from an object of a schema to an object inside it. -/
inductive Step where
  | property (name : Text)
  | items
  | additional
  | part (index : Nat)

/-- The segments of a step. -/
def Step.segments : Step → List Segment
  | .property name => [.key "properties", .key name]
  | .items => [.key "items"]
  | .additional => [.key "additionalProperties"]
  | .part index => [.key "allOf", .index index]

/-- A definition, and the steps from there to an object inside it. -/
structure Route where
  definition : Text
  steps : List Step := []

namespace Route

/-- A route with one more step. -/
def extend (route : Route) (step : Step) : Route :=
  { route with steps := route.steps ++ [step] }

/-- The segments of a route, from the document on. -/
def segments (route : Route) : List Segment :=
  .key "definitions" :: .key route.definition :: route.steps.flatMap Step.segments

/-- The path that spells a route. -/
def path (route : Route) : Text :=
  "#/" ++ List.intercalate "/" (route.segments.map Segment.text)

/-- The value that a route through a document leads to. -/
def target? (route : Route) (document : Json) : Option Json :=
  document.descendant? route.segments

theorem segments_extend (route : Route) (step : Step) :
    (route.extend step).segments = route.segments ++ step.segments := by
  simp [segments, extend]

theorem target?_extend (route : Route) (step : Step) (document : Json) :
    (route.extend step).target? document =
      (route.target? document).bind fun inner => inner.descendant? step.segments := by
  rw [target?, segments_extend, Json.descendant?_append, target?]

theorem intercalate_cons (separator first : Text) (rest : List Text) :
    separator.intercalate (first :: rest) = first ++ rest.flatMap (separator ++ ·) := by
  induction rest generalizing first with
  | nil => simp
  | cons second rest ih =>
      rw [List.intercalate_cons_cons, ih, List.flatMap_cons, List.append_assoc, List.append_assoc]

/-- A path without its first word, every other word with the slash in front of it. -/
theorem path_eq (route : Route) :
    route.path = definitionPath route.definition ++
      ((route.steps.flatMap Step.segments).map Segment.text).flatMap (Text.ofString "/" ++ ·) := by
  have front : Text.ofString "#/definitions/" =
      Text.ofString "#/" ++ (Text.ofString "definitions" ++ Text.ofString "/") := by decide
  rw [path, segments, List.map_cons, intercalate_cons, List.map_cons, List.flatMap_cons,
    definitionPath, front]
  simp only [Segment.text, List.append_assoc]

/-- One more step is written behind the path. -/
theorem path_extend (route : Route) (step : Step) :
    (route.extend step).path =
      route.path ++ (step.segments.map Segment.text).flatMap (Text.ofString "/" ++ ·) := by
  simp [path_eq, extend]

theorem path_definition (name : Text) : path ⟨name, []⟩ = definitionPath name := by
  simp [path_eq]

theorem path_property (route : Route) (name : Text) :
    (route.extend (.property name)).path = route.path ++ "/properties/" ++ name := by
  have word : Text.ofString "/properties/" =
      Text.ofString "/" ++ (Text.ofString "properties" ++ Text.ofString "/") := by decide
  simp [path_extend, Step.segments, Segment.text, word]

theorem path_items (route : Route) : (route.extend .items).path = route.path ++ "/items" := by
  have word : Text.ofString "/items" = Text.ofString "/" ++ Text.ofString "items" := by decide
  simp [path_extend, Step.segments, Segment.text, word]

theorem path_additional (route : Route) :
    (route.extend .additional).path = route.path ++ "/additionalProperties" := by
  have word : Text.ofString "/additionalProperties" =
      Text.ofString "/" ++ Text.ofString "additionalProperties" := by decide
  simp [path_extend, Step.segments, Segment.text, word]

theorem path_part (route : Route) (index : Nat) :
    (route.extend (.part index)).path = route.path ++ "/allOf/" ++ Nat.repr index := by
  have word : Text.ofString "/allOf/" =
      Text.ofString "/" ++ (Text.ofString "allOf" ++ Text.ofString "/") := by decide
  simp [path_extend, Step.segments, Segment.text, word]

end Route

/-! ## Nodes -/

/-- A node of the definitions of a document. -/
inductive Node where
  | definition (definition : Definition)
  | property (property : Property Fragment)
  | fragment (fragment : Fragment)

namespace Node

/-- The place of a node. -/
def place : Node → Place
  | definition own => own.place
  | property own => own.place
  | fragment own => own.place

/-- A node directly inside another one. -/
inductive Holds : Node → Node → Prop where
  | body {definition : Definition} {fragment : Fragment}
      (found : definition.body = some fragment) :
      Holds (.definition definition) (.fragment fragment)
  | property {shape : ObjectShape Fragment} {property : Property Fragment}
      (member : property ∈ shape.properties) :
      Holds (.fragment (.object shape)) (.property property)
  | type {property : Property Fragment} {fragment : Fragment}
      (found : property.fragment = some fragment) : Holds (.property property) (.fragment fragment)
  | items {place : Place} {fragment : Fragment} :
      Holds (.fragment (.array place (some fragment))) (.fragment fragment)
  | additional {shape : ObjectShape Fragment} {fragment : Fragment}
      (found : shape.additional = .described fragment) :
      Holds (.fragment (.object shape)) (.fragment fragment)
  | base {place : Place} {fragment : Fragment} {extension : Option Fragment} :
      Holds (.fragment (.composition place (some fragment) extension)) (.fragment fragment)
  | extension {place : Place} {base : Option Fragment} {fragment : Fragment} :
      Holds (.fragment (.composition place base (some fragment))) (.fragment fragment)

end Node

/-- A node is one of some definitions, or inside one at any depth. -/
def Occurs (definitions : List Definition) (node : Node) : Prop :=
  ∃ definition ∈ definitions, ReflTransGen Node.Holds (.definition definition) node

namespace Occurs

variable {definitions : List Definition} {outer inner : Node}

theorem holds (occurs : Occurs definitions outer) (holds : outer.Holds inner) :
    Occurs definitions inner := by
  obtain ⟨definition, member, within⟩ := occurs
  exact ⟨definition, member, within.tail holds⟩

theorem body {definition : Definition} (member : definition ∈ definitions) {fragment : Fragment}
    (present : definition.body = some fragment) : Occurs definitions (.fragment fragment) :=
  ⟨definition, member, .single (.body present)⟩

end Occurs

/-- What the members of the object at the end of a route are read as. -/
inductive ParsedAt (marker document : Json) : Route → List (Text × Json) → Node → Prop where
  | definition {name : Text} {members : List (Text × Json)} {definition : Definition}
      (read : ReadAs marker (name, .object members) definition) :
      ParsedAt marker document ⟨name, []⟩ members (.definition definition)
  | body {name : Text} {members : List (Text × Json)} {fragment : Fragment}
      (read : (readBody marker name (Route.path ⟨name, []⟩) members).outcome = .ok fragment) :
      ParsedAt marker document ⟨name, []⟩ members (.fragment fragment)
  | base {route : Route} {index : Nat} {members : List (Text × Json)} {link : Link}
      (read : (readPart marker (route.extend (.part index)).path (.object members)).outcome =
        .ok (.base link)) :
      ParsedAt marker document (route.extend (.part index)) members (.fragment (.reference link))
  | extension {route : Route} {index : Nat} {members : List (Text × Json)}
      {shape : ObjectShape Fragment}
      (read : (readPart marker (route.extend (.part index)).path (.object members)).outcome =
        .ok (.extension shape)) :
      ParsedAt marker document (route.extend (.part index)) members (.fragment (.object shape))
  | property {route : Route} {around members : List (Text × Json)} {name : Text}
      {property : Property Fragment} (held : route.target? document = some (.object around))
      (read : ReadsProperty marker route.path (requiredNames around) (name, .object members)
        property) :
      ParsedAt marker document (route.extend (.property name)) members (.property property)
  | fragment {route : Route} {members : List (Text × Json)} {fragment : Fragment}
      (read : (readFragment marker route.path (.object members)).outcome = .ok fragment) :
      ParsedAt marker document route members (.fragment fragment)

/-- How the route of a node goes on to a node directly inside it.  A body is where its
definition is, and a type is where its property is. -/
def Node.Leads (route : Route) : Node → Node → Route → Prop
  | .definition _, .fragment _, further => further = route
  | .property _, .fragment _, further => further = route
  | .fragment (.object _), .property own, further => further = route.extend (.property own.name)
  | .fragment (.object _), .fragment _, further => further = route.extend .additional
  | .fragment (.array _ _), .fragment _, further => further = route.extend .items
  | .fragment (.composition _ _ _), .fragment _, further =>
      ∃ index, further = route.extend (.part index)
  | _, _, _ => False

/-- The routes of the nodes of some definitions. -/
inductive OccursAt (definitions : List Definition) : Route → Node → Prop where
  | definition {definition : Definition} (member : definition ∈ definitions) :
      OccursAt definitions ⟨definition.name, []⟩ (.definition definition)
  | inside {route further : Route} {outer inner : Node} (occurs : OccursAt definitions route outer)
      (holds : outer.Holds inner) (leads : Node.Leads route outer inner further) :
      OccursAt definitions further inner

/-- The path of a node spells a route through a document, and the node is what the object at
its end is read as. -/
def LocatedAt (marker document : Json) (route : Route) (node : Node) : Prop :=
  node.place.path = route.path ∧ ∃ members, route.target? document = some (.object members) ∧
    ParsedAt marker document route members node

/-- A node of some definitions is located at the end of its route. -/
def Located (marker document : Json) (definitions : List Definition) (node : Node) : Prop :=
  ∃ route, OccursAt definitions route node ∧ LocatedAt marker document route node

/-! ## Parts of what is read -/

section

variable {marker : Json} {path : Text} {members : List (Text × Json)}

/-- A part of a composition that is read is read of an object. -/
theorem exists_members_of_readPart {member : Json} {part : Part}
    (read : (readPart marker path member).outcome = .ok part) :
    ∃ members, member = .object members := by
  cases member with
  | object members => exact ⟨members, rfl⟩
  | null | bool _ | integer _ | number _ => cases read
  | text _ | array _ =>
      simp only [readPart, Processing.checked, Traced.outcome_bind_eq_ok_iff,
        Traced.outcome_ofExcept, mapError_eq_ok_iff] at read
      obtain ⟨refers, -, read⟩ := read
      cases refers with
      | true => cases read
      | false => cases read

theorem exists_index_of_readParts {position : Nat} {listed : List Json} {parts : List Part}
    (read : (readParts marker path position listed).outcome = .ok parts) :
    ∀ part ∈ parts, ∃ index members, listed[index]? = some (.object members) ∧
      (readPart marker (path ++ "/allOf/" ++ Nat.repr (position + index))
        (.object members)).outcome = .ok part := by
  induction listed generalizing position parts with
  | nil =>
      cases read
      exact nofun
  | cons member listed ih =>
      rw [readParts, Traced.outcome_bind_eq_ok_iff] at read
      obtain ⟨part, first, rest⟩ := read
      obtain ⟨others, later, result⟩ := Traced.outcome_bind_eq_ok_iff.mp rest
      cases result
      refine List.forall_mem_cons.mpr ⟨?_, fun other among => ?_⟩
      · obtain ⟨members, rfl⟩ := exists_members_of_readPart first
        exact ⟨0, members, rfl, first⟩
      · obtain ⟨index, members, found, own⟩ := ih later other among
        rw [Nat.add_assoc, Nat.add_comm 1] at own
        exact ⟨index + 1, members, found, own⟩

/-- The fragment that a part of a composition becomes. -/
def Part.fragment : Part → Fragment
  | .base link => .reference link
  | .extension shape => .object shape

/-- A fragment that the members of an object are read as, by what is inside it. -/
inductive ReadsInside (marker : Json) (path : Text) (members : List (Text × Json)) :
    Fragment → Prop where
  | leaf {fragment : Fragment} (placed : fragment.place.path = path)
      (bare : ∀ inner, ¬Node.Holds (.fragment fragment) inner) :
      ReadsInside marker path members fragment
  | array {description : Json} {items : Option Fragment}
      (read : (readAt marker (path ++ "/items") "items" members).outcome = .ok items) :
      ReadsInside marker path members (.array ⟨path, description⟩ items)
  | object {shape : ObjectShape Fragment}
      (read : (readObject marker path members).outcome = .ok shape) :
      ReadsInside marker path members (.object shape)
  | composition {composed description : Json} {listed : List Json} {parts : List Part}
      {base extension : Option Fragment} (found : lookup "allOf" members = some composed)
      (items : composed.items = .ok listed)
      (read : (readParts marker path 0 listed).outcome = .ok parts)
      (referring : ∀ fragment, base = some fragment →
        ∃ link, fragment = .reference link ∧ Part.base link ∈ parts)
      (inline : ∀ fragment, extension = some fragment →
        ∃ shape, fragment = .object shape ∧ Part.extension shape ∈ parts) :
      ReadsInside marker path members (.composition ⟨path, description⟩ base extension)

theorem path_of_readObject {shape : ObjectShape Fragment}
    (read : (readObject marker path members).outcome = .ok shape) : shape.place.path = path := by
  simp only [readObject, Traced.outcome_bind_eq_ok_iff] at read
  obtain ⟨properties, -, described, -, result⟩ := read
  cases result
  rfl

/-- What an object admits is described under its key. -/
theorem readAt_of_additional {shape : ObjectShape Fragment} {fragment : Fragment}
    (read : (readObject marker path members).outcome = .ok shape)
    (described : shape.additional = .described fragment) :
    (readAt marker (path ++ "/additionalProperties") "additionalProperties" members).outcome =
      .ok (some fragment) := by
  simp only [readObject, Traced.outcome_bind_eq_ok_iff] at read
  obtain ⟨properties, -, admitted, ended, result⟩ := read
  cases result
  cases admitted with
  | some inner =>
      cases described
      exact ended
  | none =>
      rw [shapeOf] at described
      dsimp only at described
      split at described
      · cases described
      · cases described

theorem path_of_readEnumeration {values : Json} {isOpen : Bool} {enumeration : Enumeration}
    (read : (readEnumeration members values path isOpen).outcome = .ok enumeration) :
    enumeration.place.path = path := by
  simp only [readEnumeration, Traced.outcome_bind_eq_ok_iff] at read
  obtain ⟨items, -, found, -, result⟩ := read
  cases result
  rfl

theorem ReadsInside.placed {fragment : Fragment}
    (reads : ReadsInside marker path members fragment) : fragment.place.path = path := by
  cases reads with
  | leaf placed bare => exact placed
  | array read => rfl
  | object read => exact path_of_readObject read
  | composition found items read referring inline => rfl

theorem ReadsInside.of_readFragment {fragment : Fragment}
    (read : (readFragment marker path (.object members)).outcome = .ok fragment) :
    ReadsInside marker path members fragment := by
  simp only [readFragment, Processing.checked, Traced.outcome_bind_eq_ok_iff,
    Traced.outcome_ofExcept, mapError_eq_ok_iff] at read
  obtain ⟨form, -, rest⟩ := read
  cases form with
  | reference target =>
      cases rest
      exact .leaf rfl (by rintro _ ⟨⟩)
  | typeList types =>
      cases rest
      exact .leaf rfl (by rintro _ ⟨⟩)
  | array =>
      obtain ⟨items, ended, result⟩ := Traced.outcome_bind_eq_ok_iff.mp rest
      cases result
      exact .array ended
  | object =>
      obtain ⟨properties, declared, rest⟩ := Traced.outcome_bind_eq_ok_iff.mp rest
      obtain ⟨described, admitted, result⟩ := Traced.outcome_bind_eq_ok_iff.mp rest
      cases result
      apply ReadsInside.object
      simp only [readObject, Traced.outcome_bind_eq_ok_iff]
      exact ⟨properties, declared, described, admitted, rfl⟩
  | enumeration listed isOpen =>
      obtain ⟨values, ended, result⟩ := Traced.outcome_bind_eq_ok_iff.mp rest
      cases result
      exact .leaf (path_of_readEnumeration ended) (by rintro _ ⟨⟩)
  | primitive typeName =>
      cases rest
      exact .leaf rfl (by rintro _ ⟨⟩)

theorem ReadsInside.of_readComposition {name : Text} {composed : Json} {fragment : Fragment}
    (found : lookup "allOf" members = some composed)
    (read : (readComposition marker name path members composed).outcome = .ok fragment) :
    ReadsInside marker path members fragment := by
  simp only [readComposition, Processing.checked, Traced.outcome_bind_eq_ok_iff,
    Traced.outcome_ofExcept, mapError_eq_ok_iff] at read
  obtain ⟨listed, items, parts, partsRead, result⟩ := read
  have referring : ∀ fragment,
      (parts.filterMap Part.base?).getLast?.map Fragment.reference = some fragment →
        ∃ link, fragment = .reference link ∧ Part.base link ∈ parts := by
    intro fragment held
    obtain ⟨link, last, rfl⟩ := Option.map_eq_some_iff.mp held
    obtain ⟨part, member, own⟩ := List.mem_filterMap.mp (List.mem_of_getLast? last)
    cases part with
    | base other =>
        cases own
        exact ⟨link, rfl, member⟩
    | extension shape => cases own
  split at result
  · cases result
    exact .composition found items partsRead referring (by rintro _ ⟨⟩)
  · rename_i extension only
    cases result
    refine .composition found items partsRead referring ?_
    rintro fragment ⟨⟩
    obtain ⟨part, member, own⟩ :=
      List.mem_filterMap.mp (only ▸ List.mem_singleton_self extension)
    cases part with
    | base link => cases own
    | extension shape =>
        cases own
        exact ⟨_, rfl, member⟩
  · cases result

theorem ReadsInside.of_readBody {name : Text} {fragment : Fragment}
    (read : (readBody marker name path members).outcome = .ok fragment) :
    ReadsInside marker path members fragment := by
  rw [readBody] at read
  split at read
  · rename_i composed found
    exact .of_readComposition found read
  · split at read
    · obtain ⟨enumeration, ended, result⟩ := Traced.outcome_bind_eq_ok_iff.mp read
      cases result
      exact .leaf (path_of_readEnumeration ended) (by rintro _ ⟨⟩)
    · obtain ⟨marked, -, rest⟩ := Traced.outcome_bind_eq_ok_iff.mp read
      split at rest
      · obtain ⟨enumeration, ended, result⟩ := Traced.outcome_bind_eq_ok_iff.mp rest
        cases result
        exact .leaf (path_of_readEnumeration ended) (by rintro _ ⟨⟩)
      · obtain ⟨shape, ended, result⟩ := Traced.outcome_bind_eq_ok_iff.mp rest
        cases result
        exact .object ended

/-- A part of a composition that is read is a reference or an inline object. -/
theorem ReadsInside.of_readPart {part : Part}
    (read : (readPart marker path (.object members)).outcome = .ok part) :
    match part with
    | .base link => link.place.path = path
    | .extension shape => (readObject marker path members).outcome = .ok shape := by
  simp only [readPart, Processing.checked, Traced.outcome_bind_eq_ok_iff,
    Traced.outcome_ofExcept, mapError_eq_ok_iff] at read
  obtain ⟨refers, -, read⟩ := read
  split at read
  · cases read
    rfl
  · simp only [Json.members, Traced.outcome_bind_eq_ok_iff, Traced.outcome_ofExcept,
      mapError_eq_ok_iff] at read
    obtain ⟨own, same, shape, ended, result⟩ := read
    cases same
    cases result
    exact ended

end

/-! ## Located nodes -/

section

variable {marker document : Json} {route : Route} {members : List (Text × Json)}

theorem ParsedAt.readsInside {fragment : Fragment}
    (parsed : ParsedAt marker document route members (.fragment fragment)) :
    ReadsInside marker route.path members fragment := by
  cases parsed with
  | body read => exact .of_readBody read
  | base read => exact .leaf (ReadsInside.of_readPart read) nofun
  | extension read => exact .object (ReadsInside.of_readPart read)
  | fragment read => exact .of_readFragment read

theorem ParsedAt.placed {node : Node} (parsed : ParsedAt marker document route members node) :
    node.place.path = route.path := by
  cases node with
  | definition own =>
      cases parsed with
      | definition read => exact read.path.trans (Route.path_definition _).symm
  | property own =>
      cases parsed with
      | property held read =>
          cases read
          exact (Route.path_property _ _).symm
  | fragment own => exact parsed.readsInside.placed

theorem ParsedAt.located {node : Node} (parsed : ParsedAt marker document route members node)
    (found : route.target? document = some (.object members)) :
    LocatedAt marker document route node :=
  ⟨parsed.placed, members, found, parsed⟩

/-- A member of an object is found behind the object. -/
theorem target?_of_lookup (found : route.target? document = some (.object members))
    {step : Step} {key : Text} (single : step.segments = [.key key]) :
    (route.extend step).target? document = lookup key members := by
  rw [Route.target?_extend, found, single, Option.bind_some, Json.descendant?_singleton]
  rfl

theorem located_of_readAt {step : Step} {key : Text} (single : step.segments = [.key key])
    (found : route.target? document = some (.object members)) {fragment : Fragment}
    (read : (readAt marker (route.extend step).path key members).outcome = .ok (some fragment)) :
    LocatedAt marker document (route.extend step) (.fragment fragment) := by
  rw [readAt_eq] at read
  split at read
  · rename_i inner held
    obtain ⟨own, ended, same⟩ := Traced.outcome_map_eq_ok_iff.mp read
    cases same
    exact ParsedAt.located (.fragment ended) ((target?_of_lookup found single).trans held)
  · cases read

/-- A value whose items hold an object is an array. -/
theorem eq_array_of_items {value : Json} {listed : List Json} {index : Nat}
    {inner : List (Text × Json)} (items : value.items = .ok listed)
    (held : listed[index]? = some (.object inner)) : value = .array listed := by
  have member := List.mem_of_getElem? held
  cases value with
  | array own =>
      cases items
      rfl
  | text own =>
      cases items
      obtain ⟨symbol, -, same⟩ := List.mem_map.mp member
      cases same
  | object own =>
      cases items
      obtain ⟨entry, -, same⟩ := List.mem_map.mp member
      cases same
  | null | bool _ | integer _ | number _ => cases items

theorem located_part (found : route.target? document = some (.object members))
    {composed : Json} {listed : List Json} {parts : List Part}
    (held : lookup "allOf" members = some composed) (items : composed.items = .ok listed)
    (read : (readParts marker route.path 0 listed).outcome = .ok parts) {part : Part}
    (member : part ∈ parts) :
    ∃ index, LocatedAt marker document (route.extend (.part index)) (.fragment part.fragment) := by
  obtain ⟨index, inner, among, own⟩ := exists_index_of_readParts read part member
  rw [Nat.zero_add, ← Route.path_part] at own
  have reached : (route.extend (.part index)).target? document = some (.object inner) := by
    rw [Route.target?_extend, found, Option.bind_some, Step.segments, Json.descendant?_cons,
      Json.child?, held, Option.bind_some, Json.descendant?_singleton,
      eq_array_of_items items among, Json.child?, among]
  refine ⟨index, ?_⟩
  cases part with
  | base link => exact ParsedAt.located (.base own) reached
  | extension shape => exact ParsedAt.located (.extension own) reached

variable (distinct : document.DistinctKeys)

include distinct

theorem located_property (found : route.target? document = some (.object members))
    {shape : ObjectShape Fragment}
    (read : (readObject marker route.path members).outcome = .ok shape)
    {property : Property Fragment} (member : property ∈ shape.properties) :
    LocatedAt marker document (route.extend (.property property.name)) (.property property) := by
  obtain ⟨⟨name, value⟩, among, own⟩ :=
    exists_mem_of_forall₂ (readsProperties_of_readObject read) property member
  obtain ⟨named, inner, rfl⟩ : property.name = name ∧ ∃ inner, value = .object inner := by
    cases own with
    | entry read held =>
        obtain ⟨inner, form, same, -⟩ := exists_form_of_readFragment read
        exact ⟨rfl, inner, same⟩
  have whole : (Json.object members).DistinctKeys := distinct.descendant found
  have held : ∃ entries, lookup "properties" members = some (.object entries) ∧
      lookup name entries = some (.object inner) := by
    rw [declaredEntries] at among
    split at among
    · rename_i entries declared
      have mapping := (Json.distinctKeys_object_iff.mp whole).2 _ (Json.mem_of_lookup declared)
      have keys := (Json.distinctKeys_object_iff.mp mapping).1
      exact ⟨entries, declared, Json.lookup_of_mem keys among⟩
    · cases among
  obtain ⟨entries, declared, entry⟩ := held
  rw [named]
  refine ParsedAt.located (.property found own) ?_
  rw [Route.target?_extend, found, Option.bind_some, Step.segments, Json.descendant?_cons,
    Json.child?, declared, Option.bind_some, Json.descendant?_singleton, Json.child?, entry]

/-- The nodes directly inside a located one are located, one step further at most. -/
theorem LocatedAt.holds {outer inner : Node} (located : LocatedAt marker document route outer)
    (holds : outer.Holds inner) :
    ∃ further, Node.Leads route outer inner further ∧
      LocatedAt marker document further inner := by
  obtain ⟨-, members, found, parsed⟩ := located
  cases holds with
  | body held =>
      refine ⟨route, rfl, ?_⟩
      cases parsed with
      | definition read =>
          cases read with
          | object read =>
              cases held
              rw [← Route.path_definition] at read
              exact ParsedAt.located (.body read) found
  | type held =>
      refine ⟨route, rfl, ?_⟩
      cases parsed with
      | property around read =>
          cases read with
          | entry read required =>
              cases held
              rw [← Route.path_property] at read
              exact ParsedAt.located (.fragment read) found
  | property member =>
      refine ⟨_, rfl, ?_⟩
      cases parsed.readsInside with
      | leaf placed bare => exact absurd (.property member) (bare _)
      | object read => exact located_property distinct found read member
  | additional held =>
      refine ⟨_, rfl, ?_⟩
      cases parsed.readsInside with
      | leaf placed bare => exact absurd (.additional held) (bare _)
      | object read =>
          have admitted := readAt_of_additional read held
          rw [← Route.path_additional] at admitted
          exact located_of_readAt rfl found admitted
  | items =>
      refine ⟨_, rfl, ?_⟩
      cases parsed.readsInside with
      | leaf placed bare => exact absurd .items (bare _)
      | array read =>
          rw [← Route.path_items] at read
          exact located_of_readAt rfl found read
  | base =>
      cases parsed.readsInside with
      | leaf placed bare => exact absurd .base (bare _)
      | composition held items read referring inline =>
          obtain ⟨link, rfl, member⟩ := referring _ rfl
          obtain ⟨index, part⟩ := located_part found held items read member
          exact ⟨_, ⟨index, rfl⟩, part⟩
  | extension =>
      cases parsed.readsInside with
      | leaf placed bare => exact absurd .extension (bare _)
      | composition held items read referring inline =>
          obtain ⟨shape, rfl, member⟩ := inline _ rfl
          obtain ⟨index, part⟩ := located_part found held items read member
          exact ⟨_, ⟨index, rfl⟩, part⟩

theorem Located.within {definitions : List Definition} {outer inner : Node}
    (located : Located marker document definitions outer)
    (within : ReflTransGen Node.Holds outer inner) :
    Located marker document definitions inner := by
  induction within with
  | refl => exact located
  | tail _ holds ih =>
      obtain ⟨route, occurs, here⟩ := ih
      obtain ⟨further, leads, there⟩ := here.holds distinct holds
      exact ⟨further, .inside occurs holds leads, there⟩

end

/-- Where there are entries, they are those of the object under the key of the definitions. -/
theorem lookup_definitions_of_mem {members entries : List (Text × Json)} {entry : Text × Json}
    (found : (field members "definitions").optionalMembers = .ok entries)
    (among : entry ∈ entries) : lookup "definitions" members = some (.object entries) := by
  rcases Json.field_eq_null_or members "definitions" with missing | present
  · rw [missing] at found
    cases found
    cases among
  · rw [present]
    cases own : field members "definitions" with
    | object inner =>
        rw [own, Json.optionalMembers] at found
        split at found
        · cases found
          rfl
        · cases found
          cases among
    | null | bool _ | integer _ | number _ | text _ | array _ =>
        rw [own, Json.optionalMembers] at found
        split at found
        · cases found
        · cases found
          cases among

/-- An entry of the definitions is at the end of the route of its name. -/
theorem target?_of_mem {document : Json} (distinct : document.DistinctKeys)
    {members entries : List (Text × Json)} (held : document.members = .ok members)
    (found : (field members "definitions").optionalMembers = .ok entries) {name : Text}
    {value : Json} (among : (name, value) ∈ entries) :
    Route.target? ⟨name, []⟩ document = some value := by
  have present := lookup_definitions_of_mem found among
  cases document with
  | object own =>
      cases held
      have mapping := (Json.distinctKeys_object_iff.mp distinct).2 _ (Json.mem_of_lookup present)
      have keys := (Json.distinctKeys_object_iff.mp mapping).1
      rw [Route.target?, Route.segments, Json.descendant?_cons, Json.child?, present,
        Option.bind_some, List.flatMap_nil, Json.descendant?_singleton, Json.child?]
      exact Json.lookup_of_mem keys among
  | null | bool _ | integer _ | number _ | text _ | array _ => cases held

/-- The definitions of a document are located at their entries. -/
theorem located_definition {marker document : Json} (distinct : document.DistinctKeys)
    {definitions : List Definition} (ended : (read marker document).outcome = .ok definitions)
    {definition : Definition} (member : definition ∈ definitions) :
    Located marker document definitions (.definition definition) := by
  obtain ⟨members, entries, held, found, listed⟩ := read_ok_iff.mp ended
  obtain ⟨⟨name, value⟩, taken, own⟩ :=
    exists_mem_of_forall₂ (readDefinitions_ok_iff.mp listed) definition member
  have reached := target?_of_mem distinct held found (List.mem_of_mem_filter taken)
  cases own with
  | object read =>
      exact ⟨_, .definition member, ParsedAt.located (.definition (.object read)) reached⟩

/-- Every node of the definitions of a document is located. -/
theorem located_of_occurs {marker document : Json} (distinct : document.DistinctKeys)
    {definitions : List Definition} (ended : (read marker document).outcome = .ok definitions)
    {node : Node} (occurs : Occurs definitions node) :
    Located marker document definitions node := by
  obtain ⟨definition, member, within⟩ := occurs
  exact (located_definition distinct ended member).within distinct within

end Schema

end ProtocolBindings
