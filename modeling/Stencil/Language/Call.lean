import Stencil.Language.Formatting
import Stencil.Value.Display
import Stencil.Value.Iterate

namespace Stencil.Language

def textsOf (v : Value) : Except Fault (List Text) := do
  (← v.iterate).mapM fun item =>
    match item.asText? with
    | some t => .ok t
    | none => .error (.general .wrongType)

/-- Applies a function to a text, and keeps it marked as escaped if it was. -/
def mapText (f : Text → Text) (v : Value) : Except Fault Value := do
  let t ← v.expectText
  match v with
  | .markup _ => return if t.isEmpty then .text [] else .markup (f t)
  | _ => return .text (f t)

def callUnary (l : Language) (name : Text) (v : Value) : Except Fault Value :=
  if name = "comment" then .ok v
  else if name = "method" then
    match l with
    | python => .ok (.text (l.method (v.displayTrue)))
    | _ => .ok v
  else if name = "string" then
    match l with
    | plain => .ok v
    | _ => v.expectText.map fun t => .text (l.literal t)
  else if name = "namespace" then
    match l with
    | plain => mapText l.packageName v
    | go => v.expectText.map fun t => .text (l.packageName t)
    | python => .ok (.text (l.packageName (v.displayTrue)))
  else if name = "constant" then
    match l with
    | python => .ok (.text (l.constant (v.displayTrue)))
    | _ => mapText l.constant v
  else if name = "arguments" then (textsOf v).map fun ts => .text (l.arguments ts)
  else if name = "methods" then (textsOf v).map fun ts => .text (l.methods ts)
  else if name = "type" then .ok (.text (l.type v))
  else if name = "variable" then .ok (.text (l.variableName v))
  else if name = "return_type" then .ok (.text (l.returnType v))
  else if name = "getter" || name = "setter" then .error (.general .wrongType)
  else .error (.general .noAttribute)

def call (l : Language) (name : Text) : List Value → Except Fault Value
  | [v] => l.callUnary name v
  | [v, property] =>
    if name = "getter" then .ok (.text (l.getter v (property.displayTrue)))
    else if name = "setter" then .ok (.text (l.setter (property.displayTrue)))
    else (l.callUnary name .null).bind fun _ => .error (.general .wrongType)
  | _ => (l.callUnary name .null).bind fun _ => .error (.general .wrongType)

end Stencil.Language
