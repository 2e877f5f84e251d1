import Stencil.Fault
import Stencil.Value.Basic

namespace Stencil.Value

/-- The items that a value consists of: those of lists and views, the keys of mappings, the characters
of texts. -/
def iterate : Value → Except Fault (List Value)
  | list vs => .ok vs
  | tuple vs => .ok vs
  | view vs => .ok vs
  | dict es => .ok (es.map fun (k, _) => k.toValue)
  | text t => .ok (t.map fun c => text [c])
  | markup t => .ok (t.map fun c => text [c])
  | undefined => .ok []
  | _ => .error (.general .wrongType)

/-- The items of a true value, and none of a false one. -/
def iteratePresent (v : Value) : Except Fault (List Value) :=
  if v.truthy then v.iterate else .ok []

/-- A false value names nothing, a text itself, and any other value its items. -/
def asList (v : Value) : Except Fault (List Value) :=
  if v.truthy then
    match v.asText? with
    | some _ => .ok [v]
    | none => v.iterate
  else .ok []

/-- The texts among values that can be members of a set. -/
def memberTexts (vs : List Value) : Except Fault (List Text) := do
  if vs.all fun v => v.asKey?.isSome || v.isMissing then return vs.filterMap asText?
  else throw (.general .wrongType)

def expectText (v : Value) : Except Fault Text :=
  if v.truthy then
    match v.asText? with
    | some t => .ok t
    | none => .error (.general .noAttribute)
  else .ok []

end Stencil.Value
