import Stencil.Kind
import Stencil.Target.Basic

namespace Stencil

/-- A template with its path in the directory of its kind and its whole path. -/
structure TemplateFile where
  filename : Text
  path : Text
  source : Text
  deriving DecidableEq

namespace TemplateFile

/-- The text of a template; bytes that are no text are replaced. -/
def readSource (d : Disk) (p : Path) : Except Fault Text := do
  return Text.normalizeNewlines (Text.decodeLossy (← DiskTask.ofObstacle (d.read p)))

def below (d : Disk) (directory : Path) : Except Fault (List TemplateFile) := do
  let l ← DiskTask.ofObstacle (d.locate directory)
  (d.walk l).mapM fun m => do
    let inner := m.drop l.length
    let p : Path := { directory with parts := directory.parts ++ inner }
    return ⟨Text.join ['/'] inner, p.toText, ← readSource d p⟩

end TemplateFile

namespace Target

def kindDirectory (kind : Value) : Except Fault Text := do
  let missing : Fault := .config (.noTemplate kind.display)
  if !kind.truthy then throw missing
  match kind.asText? with
  | none => throw (.general .noAttribute)
  | some t =>
    if (Kind.parse t).fullName.isEmpty then throw missing
    return (Kind.parse t).fullName

def templatesFor (t : Target) (d : Disk) (kind : Value) : Except Fault Path := do
  let directory := t.templatesPath.child (← kindDirectory kind)
  if ← d.isDirectory directory then return directory
  throw (.config (.noTemplateDirectory directory.toText kind.display))

end Target

end Stencil
