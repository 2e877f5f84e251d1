import Stencil.Engine.Session

namespace Stencil

/-- The text of a block for the items it is called with. -/
abbrev Block := List Value → Act Text

namespace Helper

def renderBlock (block : Option Block) (items : List Value) : Act Text :=
  match block with
  | some render => render items
  | none => pure []

/-- The block if the condition holds, or the condition itself where there is no block. -/
def blockOrFlag (condition : Bool) (block : Option Block) : Act Value :=
  match block with
  | none => pure (.bool condition)
  | some render => do
    if condition then return .markup (← render []) else return .markup []

/-- The block for each item with a text between neighbours, or the items where there is no block. -/
def blockOrItems (joiner : Text) (items : List Value) (block : Option Block) : Act Value :=
  match block with
  | none => pure (.list items)
  | some render => do
    return .markup (Text.join joiner (← items.mapM fun item => render [item]))

end Helper

end Stencil
