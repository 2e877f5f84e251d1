import Stencil.Job
import Stencil.Output.Directive
import Stencil.Output.Tidy
import Stencil.Output.Writer

namespace Stencil

structure Target where
  base : Path
  options : Value := .dict []
  language : Language := .plain
  parser : Option SourceParser := none
  autoescape : Bool := false
  /-- What is done to the body of every generated file, given its filename. -/
  polish : Text → Text → Text := keepBody
  merge : Merge := refuseMerge
  preprocess : Value → Work Value := pure
  postprocess : Path → List Asset → Work Unit := fun _ _ => pure ()

namespace Target

def tidied (t : Target) : Target :=
  { t with polish := Tidy.apply }

/-- The same target with its options in the store, where templates can change them. -/
def shared (t : Target) : Act Target := do
  return { t with options := ← Act.share t.options }

def templatesPath (t : Target) : Path :=
  t.base.child "templates"

end Target

end Stencil
