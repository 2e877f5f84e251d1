import Stencil.Helper.Block
import Stencil.Kind
import Stencil.Value.Iterate

namespace Stencil.Helper

def specField (e : Engine) (name : Text) : Act Value := do
  return (← Act.look ((← Act.look (← Act.look e.context |>.map (·.get "spec"))).get name))

def resources (e : Engine) (collection : Text) : Act (List Value) := do
  Act.ofExcept (← specField e collection).iteratePresent

def matching (e : Engine) (collection request : Text) : Act (List Value) := do
  let look := (← get).store.look
  return Kind.filter request (← resources e collection) look

def eachMatching (e : Engine) (collection request : Text) (block : Option Block)
    (joiner : Text := "\n") : Act Value := do
  blockOrItems joiner (← matching e collection request) block

def ifMatching (e : Engine) (collection request : Text) (block : Option Block) : Act Value := do
  let look := (← get).store.look
  blockOrFlag (Kind.has request ((← resources e collection).map look)) block

/-- The `handle/name` forms of requests; versions are left out. -/
def requestedNames (requests : List Text) : List Text :=
  (requests.map fun request => (Kind.parse request).fullName).filter fun name => !name.isEmpty

def usesAny (resources : List Value) (requests : List Text) : Bool :=
  (requestedNames requests).any fun name => Kind.has name resources

def ifUsingAny (e : Engine) (requests : List Text) (block : Option Block) : Act Value := do
  let look := (← get).store.look
  let all := (← resources e "consumers") ++ (← resources e "providers")
  blockOrFlag (usesAny (all.map look) requests) block

end Stencil.Helper
