import Stencil.Engine.Session
import Stencil.Template.Syntax
import Stencil.Value.Iterate

namespace Stencil.Template

abbrev Bindings := List (Text × Value)

/-- The names of one loop or block; those of a loop that were assigned by a tag are kept apart as
well. -/
structure Frame where
  names : Bindings
  assigned : Bindings := []
  isLoop : Bool := false

structure Scope where
  frames : List Frame := []
  top : Bindings := []
  given : Bindings := []

namespace Scope

/-- All names that can be seen; the first of several equal ones counts. -/
def visible (s : Scope) : Bindings :=
  s.frames.flatMap Frame.names ++ s.top ++ s.given

def get? (s : Scope) (name : Text) : Option Value :=
  s.visible.lookup name

def enter (s : Scope) (f : Frame) : Scope :=
  { s with frames := f :: s.frames }

/-- Assigns names where the innermost loop or block ends, or outside of all. -/
def assign (s : Scope) (names : Bindings) : Scope :=
  match s.frames with
  | [] => { s with top := names ++ s.top }
  | f :: frames =>
    { s with frames := { f with names := names ++ f.names, assigned := names ++ f.assigned } :: frames }

/-- The data document that a helper sees: one assigned in the loop it is called in, or else outside
of all loops and blocks. -/
def data (s : Scope) : Value :=
  let own : Bindings :=
    match s.frames with
    | f :: _ => if f.isLoop then f.assigned else []
    | [] => []
  ((own ++ s.top ++ s.given).lookup "data".toList).getD .null

end Scope

mutual

def Pattern.bind : Pattern → Value → Act Bindings
  | .name n, v => do return [(n, ← Act.share v)]
  | .tuple ps, v => do
    let items ← Act.ofExcept (← Act.look v).iterate
    Pattern.bindAll ps items
  | .field _ _, _ => Act.fail .templateRuntime

def Pattern.bindAll : List Pattern → List Value → Act Bindings
  | [], [] => return []
  | p :: ps, v :: vs => do
    let first ← Pattern.bind p v
    return (← Pattern.bindAll ps vs) ++ first
  | _, _ => Act.fail .badValue

end

end Stencil.Template
