import ProtocolBindings.Bindings.Module

/-!
# Renderers

A renderer remembers the names that the code rendered so far needs.  A type on its
own adds to them; a module starts again from none, even if it cannot be rendered.
-/

namespace ProtocolBindings.Bindings

/-- A configuration, and the names needed so far. -/
structure Renderer where
  config : Config
  needed : List Import := []
deriving Repr

namespace Renderer

/-- The annotation for a type. -/
def annotate (renderer : Renderer) (type : Model.TypeDescriptor) :
    Renderer × Except Misuse Text :=
  let rendered := annotationOf type
  ({ renderer with needed := renderer.needed ++ rendered.trail }, rendered.outcome)

/-- The code of a model below a header comment. -/
def render (renderer : Renderer) (model : Model) (comment : Text) :
    Renderer × Except Misuse Text :=
  let rendered := moduleText renderer.config model comment
  ({ renderer with needed := rendered.trail }, rendered.outcome)

/-- The lines that import the names needed so far. -/
def importLines (renderer : Renderer) : List String := Bindings.importLines renderer.needed

end Renderer

end ProtocolBindings.Bindings
