import Stencil.Target.Generate

namespace Stencil.Target

/-- Generates the files for a data document into a directory, for a way to render a template for the
prepared document. Each step begins when the one before it has ended well. -/
def generateIntoBy (t : Target) (render : Value → Engine → TemplateFile → Act Text) (directory : Path)
    (last : Versions) (data context : Value) : Work (List Asset) := do
  let data ← t.preprocess data
  let files ← Work.ofAct (t.generateBy (render data) (← get).disk data context)
  let assets ← Work.ofDisk (writeFiles t.merge last directory files)
  t.postprocess directory assets
  return assets

def generateInto (t : Target) : Path → Versions → Value → Value → Work (List Asset) :=
  t.generateIntoBy fun data e => t.renderTemplate e data

end Stencil.Target
