import Stencil.Template.Run
import Stencil.Text.Order

namespace Stencil.Engine

def expectDocuments (data context : Value) : Except Fault Unit :=
  match data, context with
  | .null, _ => .error (.config .missingData)
  | _, .null => .error (.config .missingContext)
  | _, _ => .ok ()

/-- Puts a partial template into its place, or behind the others. -/
def setPartial (name source : Text) : List (Text × Text) → List (Text × Text)
  | [] => [(name, source)]
  | (other, old) :: rest =>
    if name = other then (name, source) :: rest else (other, old) :: setPartial name source rest

def addPartial (e : Engine) (name source : Text) : Engine :=
  { e with partials := setPartial name source e.partials }

def partialNames (e : Engine) : List Text :=
  Text.sorted (e.partials.map Prod.fst)

def renderTextBy (language : Renderer) (e : Engine) (source : Text) (data options : Value) : Act Text :=
  language e.surroundings source
    [("options".toList, options), ("data".toList, data), ("context".toList, e.context)]

def renderText (e : Engine) (source : Text) (data options : Value) : Act Text :=
  e.renderTextBy Template.render source data options

end Stencil.Engine
