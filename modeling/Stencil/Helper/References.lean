import Stencil.Helper.Block
import Stencil.Helper.Casing
import Stencil.Reference.Resolver

namespace Stencil.Helper

def eachTypeReference (e : Engine) (v : Value) (includeAll : Bool) (allowed : List Value)
    (block : Option Block) : Act Value := do
  let resolver ← Act.ofExcept (Resolver.make (← Act.resolve e.context) includeAll allowed)
  let v ← Act.resolve v
  match block with
  | none => return Value.ofTexts (resolver.resolve v)
  | some render =>
    let render (name : Text) : StateT (List Text) Act Unit := do
      let t ← render [.dict [(.text "name", .text name)]]
      modify (· ++ [t])
    let (_, rendered) ← (Reference.discover resolver.accepts render v []).run []
    return .markup rendered.flatten

def ifTypeReference (v : Value) (name : Text) (block : Option Block) : Act Value := do
  blockOrFlag (Reference.hasReference name (← Act.resolve v)) block

/-- The name or type under which a mapping says what it holds; any other value says it itself. -/
def valueTypeName (v : Value) : Value :=
  match v with
  | .dict _ => ((v.get "name").orElse (v.get "ref")).orElse (v.get "type")
  | _ => v

/-- There is a value, and not of type `void`. -/
def isValueType (v : Value) : Bool :=
  let name := valueTypeName v
  name.truthy && Text.lower name.display ≠ "void"

def ifValueType (v : Value) (block : Option Block) : Act Value := do
  blockOrFlag (isValueType (← Act.resolve v)) block

end Stencil.Helper
