import ProtocolBindings.Failure
import ProtocolBindings.Traced

/-!
# Imports of the generated code

Rendering leaves the names that the code needs as its trail.  They are imported
in three groups, from the language's own future, from its standard library and
from other packages, sorted by module and name.
-/

namespace ProtocolBindings.Bindings

/-- The names that generated code may import. -/
inductive Import where
  | annotations
  | dataclass
  | field
  | enum
  | any
  | protocol
  | config
  | dataclassJson
deriving DecidableEq, Repr

/-- A computation that renders code and leaves the names it needs. -/
abbrev Rendering := Traced Import Misuse

namespace Import

/-- The name that is imported. -/
def name : Import → String
  | .annotations => "annotations"
  | .dataclass => "dataclass"
  | .field => "field"
  | .enum => "Enum"
  | .any => "Any"
  | .protocol => "Protocol"
  | .config => "config"
  | .dataclassJson => "dataclass_json"

end Import

/-- A module with the names that are imported from it, sorted. -/
structure Source where
  module : String
  names : List Import

/-- The modules of the language's future. -/
def futureSources : List Source := [⟨"__future__", [.annotations]⟩]

/-- The modules of the standard library, sorted. -/
def standardSources : List Source :=
  [⟨"dataclasses", [.dataclass, .field]⟩, ⟨"enum", [.enum]⟩, ⟨"typing", [.any, .protocol]⟩]

/-- The modules of other packages, sorted. -/
def otherSources : List Source := [⟨"dataclasses_json", [.config, .dataclassJson]⟩]

/-- The line that imports the needed names of a module, if any is needed. -/
def importLine? (needed : List Import) (source : Source) : Option String :=
  match source.names.filter fun name => needed.contains name with
  | [] => none
  | names =>
      some ("from " ++ source.module ++ " import " ++
        String.intercalate ", " (names.map Import.name))

/-- The lines that import the needed names from a group of modules. -/
def groupLines (needed : List Import) (sources : List Source) : List String :=
  sources.filterMap (importLine? needed)

/-- The lines that import the needed names, an empty line between the groups. -/
def importLines (needed : List Import) : List String :=
  let future := groupLines needed futureSources
  let standard := groupLines needed standardSources
  let other := groupLines needed otherSources
  let afterFuture :=
    if future.isEmpty || (standard.isEmpty && other.isEmpty) then [] else [""]
  let afterStandard := if standard.isEmpty || other.isEmpty then [] else [""]
  future ++ afterFuture ++ standard ++ afterStandard ++ other

end ProtocolBindings.Bindings
