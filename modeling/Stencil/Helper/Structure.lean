import Stencil.Helper.Block
import Stencil.Language.Formatting
import Stencil.Text.Blank

namespace Stencil.Helper

/-- The entries of a mapping, or those of a list with their numbers as keys. -/
def entriesOf (v : Value) : Entries :=
  match v with
  | .dict es => es
  | .list vs => vs.zipIdx.map fun (v, i) => (.int i, v)
  | .tuple vs => vs.zipIdx.map fun (v, i) => (.int i, v)
  | _ => []

/-- A mapping with the key under a name, or the key and the item under `value`; `looked` is what the
item refers to. -/
def namedScope (name : Text) (key : Key) (item looked : Value) : Value :=
  match looked with
  | .dict es => .dict (Entries.set (.text name) key.toValue es)
  | _ => .dict [(.text name, key.toValue), (.text "value", item)]

/-- The name and number of an argument, together with the fields of a mapping, which win. -/
def argumentScope (index : Nat) (key : Key) (item : Value) : Value :=
  let own : Entries := [(.text "argumentName", key.toValue), (.text "index", .int index)]
  match item with
  | .dict es => .dict (Entries.update own es)
  | _ => .dict own

def renderEntries (name : Text) (entries : Entries) (block : Option Block) : Act (List Text) :=
  entries.mapM fun (key, item) => do
    renderBlock block [namedScope name key item (← Act.look item)]

def eachProperty (items : Value) (block : Option Block) : Act Value := do
  return .markup (← renderEntries "propertyId" (entriesOf (← Act.look items)) block).flatten

def eachMethod (l : Language) (items : Value) (block : Option Block) : Act Value := do
  return .markup (l.methods (← renderEntries "methodName" (entriesOf (← Act.look items)) block))

/-- The scopes of arguments; the optional ones come behind the others. -/
def argumentScopes (items : Value) : Act (List Value) := do
  let scopes ← (entriesOf (← Act.look items)).zipIdx.mapM fun ((key, item), index) => do
    return argumentScope index key (← Act.look item)
  let look := (← get).store.look
  let isOptional (scope : Value) : Bool := (look (scope.get "optional")).truthy
  let (optional, required) := scopes.partition isOptional
  return required ++ optional

def eachArgument (l : Language) (items : Value) (block : Option Block) : Act Value := do
  let rendered ← (← argumentScopes items).mapM fun scope => renderBlock block [scope]
  return .markup (l.arguments (rendered.map fun t => Text.squeeze (Text.strip t)))

end Stencil.Helper
