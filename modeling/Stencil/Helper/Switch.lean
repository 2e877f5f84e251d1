import Stencil.Helper.Block

namespace Stencil.Helper

/-- The text that switches and cases compare: truth values in small letters, nothing for a missing
value, and otherwise the text of the value. -/
def compareText (v : Value) : Text :=
  match v with
  | .bool b => if b then "true" else "false"
  | _ => v.displayPresent

/-- Runs an action inside a switch, which is left in any case. -/
def withSwitch {α : Type} (t : Text) (a : Act α) : Act α :=
  fun (s : Session) =>
    let (r, s') := a.run { s with switches := t :: s.switches }
    (r, { s' with switches := s'.switches.drop 1 })

def switch (v : Value) (block : Option Block) : Act Value := do
  let t := compareText (← Act.resolve v)
  withSwitch t do return .markup (← renderBlock block [])

def case (v : Value) (block : Option Block) : Act Value := do
  let t := compareText (← Act.resolve v)
  match (← get).switches with
  | [] => return .markup []
  | current :: _ => if t = current then return .markup (← renderBlock block []) else return .markup []

end Stencil.Helper
