import Stencil.Helper.Block

namespace Stencil.Helper

structure Signature where
  parameters : List (Text × Option Value) := []
  takesRest : Bool := false
  takesOptions : Bool := false

/-- The arguments of a call. The block, if there is one, counts as the named argument `caller`. -/
structure Arguments where
  values : List Value := []
  named : List (Text × Value) := []
  block : Option Block := none

structure Bound where
  parameters : List (Text × Value) := []
  rest : List Value := []
  options : List (Text × Value) := []
  block : Option Block := none

namespace Bound

def get (b : Bound) (name : Text) : Value :=
  (b.parameters.lookup name).getD .null

end Bound

namespace Signature

def refuse {α : Type} : Except Fault α :=
  .error (.general .wrongType)

/-- Fills the parameters from left to right, then by name, then by default; `blockName` is the
parameter that the block stands for. -/
def fill (named : List (Text × Value)) (blockName : Option Text) :
    List (Text × Option Value) → List Value → Except Fault (List (Text × Value) × List Value)
  | [], values => .ok ([], values)
  | (name, _) :: parameters, v :: values =>
    if (named.lookup name).isSome || blockName = some name then refuse
    else do
      let (filled, rest) ← fill named blockName parameters values
      return ((name, v) :: filled, rest)
  | (name, default) :: parameters, [] =>
    match named.lookup name, default with
    | some v, _ => do
      let (filled, rest) ← fill named blockName parameters []
      return ((name, v) :: filled, rest)
    | none, some v => do
      let (filled, rest) ← fill named blockName parameters []
      return ((name, v) :: filled, rest)
    | none, none => refuse

def bind (s : Signature) (a : Arguments) : Except Fault Bound := do
  let isParameter (name : Text) : Bool := (s.parameters.lookup name).isSome
  let blockName : Option Text := a.block.map fun _ => "caller"
  if a.block.isSome && !isParameter "caller" then refuse
  let (filled, rest) ← fill a.named blockName s.parameters a.values
  let options := a.named.filter fun (name, _) => !isParameter name
  if !rest.isEmpty && !s.takesRest then refuse
  if !options.isEmpty && !s.takesOptions then refuse
  return ⟨filled, rest, options, a.block⟩

end Signature

end Stencil.Helper
