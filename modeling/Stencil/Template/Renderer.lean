import Stencil.Helper.Table
import Stencil.Template.Scope

namespace Stencil

/-- What the templates of an engine can use besides the names that they see. -/
structure Surroundings where
  call : Value → Helper → Helper.Arguments → Act Value
  autoescape : Bool := false
  partials : List (Text × Text) := []

def Engine.surroundings (e : Engine) : Surroundings where
  call := Helper.call e
  autoescape := e.autoescape
  partials := e.partials

/-- A template language: it renders a source that sees some names. -/
abbrev Renderer := Surroundings → Text → Template.Bindings → Act Text

end Stencil
