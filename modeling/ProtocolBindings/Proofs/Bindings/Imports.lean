import ProtocolBindings.Bindings.Renderer
import ProtocolBindings.Proofs.Bindings.Layout
import ProtocolBindings.Proofs.Bindings.Needs

/-!
# Imports of generated code

The import lines bind the names that the code needs, each of them once, from the language's
future, its standard library and other packages in turn.  Nothing that a renderer did before
changes what it renders next.
-/

namespace ProtocolBindings.Bindings

open Model

/-! ## Import lines -/

/-- The module from which a name is imported. -/
def Import.module : Import → String
  | .annotations => "__future__"
  | .dataclass | .field => "dataclasses"
  | .enum => "enum"
  | .any | .protocol => "typing"
  | .config | .dataclassJson => "dataclasses_json"

/-- The line that imports all names of a module. -/
def Source.line (source : Source) : String :=
  "from " ++ source.module ++ " import " ++ String.intercalate ", " (source.names.map Import.name)

/-- Groups of lines with an empty line between any two that are not empty. -/
def separated (groups : List (List String)) : List String :=
  List.intercalate [""] (groups.filter fun group => !group.isEmpty)

/-- Lines that import the names of a set, each once, in three groups of modules. -/
structure Imports (needs : Import → Prop) (lines : List String)
    (future standard other : List Source) : Prop where
  written : lines = separated
    [future.map Source.line, standard.map Source.line, other.map Source.line]
  ofFuture : ∀ source ∈ future, source.module = "__future__"
  ofStandard : ∀ source ∈ standard, source.module ∈ ["dataclasses", "enum", "typing"]
  ofOther : ∀ source ∈ other, source.module = "dataclasses_json"
  filled : ∀ source ∈ future ++ standard ++ other, source.names ≠ []
  home : ∀ source ∈ future ++ standard ++ other, ∀ name ∈ source.names,
    name.module = source.module
  once : ((future ++ standard ++ other).flatMap fun source =>
    source.names.map Import.name).Nodup
  exactly : ∀ name, name ∈ (future ++ standard ++ other).flatMap Source.names ↔ needs name

/-- A module with those of its names that are needed, if there are any. -/
def needed? (needed : List Import) (source : Source) : Option Source :=
  match source.names.filter fun name => needed.contains name with
  | [] => none
  | names => some { source with names := names }

theorem needed?_eq_some_iff {needed : List Import} {source kept : Source} :
    needed? needed source = some kept ↔
      kept.module = source.module ∧ kept.names ≠ [] ∧
      kept.names = source.names.filter fun name => needed.contains name := by
  unfold needed?
  obtain ⟨module, names⟩ := kept
  cases source.names.filter fun name => needed.contains name with
  | nil => simp +contextual
  | cons first rest =>
      simp only [Option.some.injEq, Source.mk.injEq]
      constructor
      · rintro ⟨rfl, rfl⟩
        exact ⟨rfl, List.cons_ne_nil _ _, rfl⟩
      · rintro ⟨rfl, _, rfl⟩
        exact ⟨rfl, rfl⟩

theorem groupLines_eq (needed : List Import) (sources : List Source) :
    groupLines needed sources = (sources.filterMap (needed? needed)).map Source.line := by
  rw [groupLines, List.map_filterMap]
  congr 1
  funext source
  unfold importLine? needed?
  cases source.names.filter fun name => needed.contains name <;> rfl

/-- The names that are kept are those that are needed. -/
theorem flatMap_filterMap_needed? (needed : List Import) (sources : List Source) :
    (sources.filterMap (needed? needed)).flatMap Source.names =
      (sources.flatMap Source.names).filter fun name => needed.contains name := by
  induction sources with
  | nil => rfl
  | cons source sources ih =>
      rw [List.filterMap_cons, List.flatMap_cons, List.filter_append, ← ih]
      cases kept : source.names.filter fun name => needed.contains name with
      | nil => simp only [needed?, kept, List.nil_append]
      | cons first rest => simp only [needed?, kept, List.flatMap_cons]

theorem importLines_eq_separated (needed : List Import) :
    importLines needed = separated
      [groupLines needed futureSources, groupLines needed standardSources,
        groupLines needed otherSources] := by
  unfold importLines
  generalize groupLines needed futureSources = future
  generalize groupLines needed standardSources = standard
  generalize groupLines needed otherSources = other
  cases future <;> cases standard <;> cases other <;> simp [separated, List.intercalate]

/-- All modules, in their order. -/
def allSources : List Source := futureSources ++ standardSources ++ otherSources

/-- Every name is imported from its module, and from no other. -/
theorem allSources_names :
    (allSources.flatMap fun source => source.names.map Import.name).Nodup ∧
      (∀ source ∈ allSources, ∀ name ∈ source.names, name.module = source.module) ∧
      ∀ name, name ∈ allSources.flatMap Source.names := by
  refine ⟨by decide, by decide, fun name => ?_⟩
  cases name <;> decide

/-- A module that is kept is one of those, with some of its names. -/
theorem exists_of_mem_needed {needed : List Import} {sources : List Source} {source : Source}
    (member : source ∈ sources.filterMap (needed? needed)) :
    ∃ whole ∈ sources, source.module = whole.module ∧ source.names ≠ [] ∧
      source.names ⊆ whole.names := by
  obtain ⟨whole, among, found⟩ := List.mem_filterMap.mp member
  obtain ⟨same, filled, names⟩ := needed?_eq_some_iff.mp found
  exact ⟨whole, among, same, filled, names ▸ List.filter_sublist.subset⟩

theorem module_mem_of_needed {needed : List Import} {sources : List Source} {source : Source}
    (member : source ∈ sources.filterMap (needed? needed)) :
    source.module ∈ sources.map Source.module := by
  obtain ⟨whole, among, same, _⟩ := exists_of_mem_needed member
  rw [same]
  exact List.mem_map_of_mem among

theorem imports_importLines {needs : Import → Prop} {needed : List Import}
    (exactly : ∀ name, name ∈ needed ↔ needs name) :
    Imports needs (importLines needed) (futureSources.filterMap (needed? needed))
      (standardSources.filterMap (needed? needed)) (otherSources.filterMap (needed? needed)) := by
  have joined : futureSources.filterMap (needed? needed) ++
      standardSources.filterMap (needed? needed) ++ otherSources.filterMap (needed? needed) =
      allSources.filterMap (needed? needed) := by
    simp only [allSources, List.filterMap_append]
  obtain ⟨distinct, home, complete⟩ := allSources_names
  constructor
  case written =>
    rw [importLines_eq_separated, groupLines_eq, groupLines_eq, groupLines_eq]
  case ofFuture =>
    exact fun source member => List.mem_singleton.mp (module_mem_of_needed member)
  case ofStandard =>
    exact fun source member => module_mem_of_needed member
  case ofOther =>
    exact fun source member => List.mem_singleton.mp (module_mem_of_needed member)
  case filled =>
    rw [joined]
    intro source member
    obtain ⟨_, _, _, filled, _⟩ := exists_of_mem_needed member
    exact filled
  case home =>
    rw [joined]
    intro source member name inside
    obtain ⟨whole, among, same, _, within⟩ := exists_of_mem_needed member
    rw [same]
    exact home whole among name (within inside)
  case once =>
    rw [joined, ← List.map_flatMap, flatMap_filterMap_needed?]
    rw [← List.map_flatMap] at distinct
    exact distinct.sublist (List.filter_sublist.map Import.name)
  case exactly =>
    intro name
    rw [joined, flatMap_filterMap_needed?, List.mem_filter, List.contains_iff_mem, exactly name]
    exact and_iff_right (complete name)

/-! ## The beginning of a module -/

/-- Code that begins with a comment, import lines and the version of the schema, and goes on
with some classes. -/
def Opens (code comment : Text) (imports : List String) (version : Json) : Prop :=
  ∃ classes blank,
    joinLines ((Text.lines comment).map (commentLine "") ++ imports.map Text.ofString ++
      [emptyLine, "SCHEMA_VERSION = " ++ version.encode, emptyLine, emptyLine] ++ classes) =
      code ++ List.replicate blank (.char '\n')

theorem opens_of_moduleText {config : Config} {model : Model} {comment code : Text}
    (rendered : (moduleText config model comment).outcome = .ok code) :
    Opens code comment (importLines (modelLines config model).trail) model.version := by
  obtain ⟨lines, blank, _, written⟩ := joinLines_of_moduleText rendered
  exact ⟨lines, blank, written⟩

/-! ## Renderers -/

/-- What is done with a renderer. -/
inductive Call where
  /-- The annotation for a type. -/
  | annotate (type : TypeDescriptor)
  /-- The code of a model below a header comment. -/
  | render (model : Model) (comment : Text)

namespace Renderer

/-- The renderer that a call leaves, whether or not it fails. -/
def perform (renderer : Renderer) : Call → Renderer
  | .annotate type => (renderer.annotate type).1
  | .render model comment => (renderer.render model comment).1

/-- The renderer that some calls leave, one after another. -/
def after (renderer : Renderer) (calls : List Call) : Renderer := calls.foldl perform renderer

theorem config_perform (renderer : Renderer) (call : Call) :
    (renderer.perform call).config = renderer.config := by
  cases call <;> rfl

theorem config_after (renderer : Renderer) (calls : List Call) :
    (renderer.after calls).config = renderer.config := by
  induction calls generalizing renderer with
  | nil => rfl
  | cons call calls ih => exact (ih (renderer.perform call)).trans (config_perform renderer call)

/-- What was needed before plays no part in a module. -/
theorem render_congr {first second : Renderer} (same : first.config = second.config)
    (model : Model) (comment : Text) :
    first.render model comment = second.render model comment := by
  unfold render
  rw [same]

/-- Whatever was done with a renderer before, it renders a model as a new one does, and its
lines of imports bind exactly the names that the model needs. -/
theorem imports_of_render (config : Config) (calls : List Call) {model : Model}
    {comment code : Text} (distinct : (model.entities.map Entity.name).Nodup)
    (rendered : ((Renderer.mk config []).render model comment).2 = .ok code) :
    (((Renderer.mk config []).after calls).render model comment).2 = .ok code ∧
    ∃ lines future standard other, Imports (NeededBy model) lines future standard other ∧
      (((Renderer.mk config []).after calls).render model comment).1.importLines = lines ∧
      Opens code comment lines model.version := by
  have same := render_congr ((Renderer.mk config []).config_after calls) model comment
  obtain ⟨lines, ended, _⟩ := hasLines_of_moduleText rendered
  have needed := modelLines_leaves config distinct lines ended
  rw [same]
  exact ⟨rendered, _, _, _, _, imports_importLines needed, rfl, opens_of_moduleText rendered⟩

/-- A record with one property, a list of any values under a name that no field can have. -/
def listModel : Model where
  entities := [.record {
    name := "List"
    base := none
    properties := [{
      name := "class"
      type := .arrayOf .any false
      required := true
      description := .null }]
    description := .null
    synthesized := false }]

/-- A type that has no annotation does not matter to the record rendered after it. -/
theorem imports_of_render_listModel :
    (listModel.entities.map Entity.name).Nodup ∧
    ∃ code, ((Renderer.mk {} []).render listModel "").2 = .ok code ∧
      (((Renderer.mk {} []).after [.annotate .any, .annotate { kind := .array }]).render
        listModel "").2 = .ok code ∧
      ∃ lines future standard other, Imports (NeededBy listModel) lines future standard other ∧
        (((Renderer.mk {} []).after [.annotate .any, .annotate { kind := .array }]).render
          listModel "").1.importLines = lines ∧
        Opens code "" lines listModel.version := by
  have distinct : (listModel.entities.map Entity.name).Nodup := by decide
  obtain ⟨code, rendered, _⟩ : ∃ code,
      (moduleText {} listModel "").outcome = .ok code ∧ code.isEmpty = false :=
    Traced.exists_ok_of_map (by decide +kernel)
  exact ⟨distinct, code, rendered, imports_of_render {} _ distinct rendered⟩

example : ((Renderer.mk {} []).render listModel "").1.importLines =
    ["from __future__ import annotations", "", "from dataclasses import dataclass, field",
      "from typing import Any", "", "from dataclasses_json import config, dataclass_json"] := by
  decide +kernel

end Renderer

end ProtocolBindings.Bindings
