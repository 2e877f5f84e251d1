import Stencil.Engine.Rendering
import Stencil.Target.Templates

namespace Stencil

def TemplateFile.blaming {α : Type} (f : TemplateFile) (a : Act α) : Act α :=
  tryCatch a fun cause => throw (.render f.path cause)

def reportOddities (text : Text) : Act Unit :=
  (splitWarnings text).forM Act.warn

/-- The files of templates in order, for a way to render a template. -/
def filesOf (render : TemplateFile → Act Text) (polish : Text → Text → Text) :
    List TemplateFile → Act (List GeneratedFile)
  | [] => return []
  | f :: templates => do
    let text ← f.blaming (render f)
    reportOddities text
    return splitFiles f.filename text polish ++ (← filesOf render polish templates)

namespace Target

def kindOf (data : Value) : Act Value := do
  return (← Act.resolve data).get "kind"

/-- Renders a template of a template language with a copy of the data document. -/
def renderTemplateBy (t : Target) (language : Renderer) (e : Engine) (data : Value)
    (f : TemplateFile) : Act Text := do
  e.renderTextBy language f.source (← Act.copy data) t.options

def renderTemplate (t : Target) : Engine → Value → TemplateFile → Act Text :=
  t.renderTemplateBy Template.render

def engineWith (t : Target) (context : Value) (templates : List TemplateFile) : Engine where
  context := context
  language := t.language
  parser := t.parser
  autoescape := t.autoescape
  partials := templates.map fun f => (f.filename, f.source)

def generateBy (t : Target) (render : Engine → TemplateFile → Act Text) (d : Disk)
    (data context : Value) : Act (List GeneratedFile) := do
  let directory ← Act.ofExcept (t.templatesFor d (← kindOf data))
  Act.ofExcept (Engine.expectDocuments data context)
  let all ← Act.ofExcept (TemplateFile.below d t.templatesPath)
  let own ← Act.ofExcept (TemplateFile.below d directory)
  filesOf (render (t.engineWith context all)) t.polish own

/-- The files for a data document; nothing is written. -/
def generate (t : Target) (d : Disk) (data context : Value) : Act (List GeneratedFile) :=
  t.generateBy (fun e => t.renderTemplate e data) d data context

end Target

end Stencil
