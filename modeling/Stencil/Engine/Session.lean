import Stencil.Engine.Store
import Stencil.Fault
import Stencil.Language.Words
import Stencil.Value.Display

namespace Stencil

/-- What a parser of source blocks answers. -/
inductive SourceOutcome
  /-- It broke down. -/
  | failed (detail : Text)
  /-- It refused the block. -/
  | refused (message : Text)
  | parsed (entities errors : Value)

/-- A parser of source blocks takes the source and options. -/
abbrev SourceParser := Value → Entries → SourceOutcome

structure Engine where
  context : Value
  language : Language := .plain
  parser : Option SourceParser := none
  /-- Output is escaped unless it is marked as escaped already. -/
  autoescape : Bool := false
  partials : List (Text × Text) := []

structure Session where
  store : Store := {}
  /-- The texts of the enclosing switches, innermost first. -/
  switches : List Text := []
  /-- The sources and options that the parser was called with. -/
  calls : List (Value × Value) := []
  warnings : List Text := []

/-- An action that may fail and may change the session in either case. -/
abbrev Act := ExceptT Fault (StateM Session)

namespace Act

def fail {α : Type} (f : GeneralFault) : Act α :=
  throw (.general f)

def ofExcept {α : Type} : Except Fault α → Act α
  | .ok a => pure a
  | .error f => throw f

def look (v : Value) : Act Value := do
  return (← get).store.look v

def resolve (v : Value) : Act Value := do
  return (← get).store.resolve v

def share (v : Value) : Act Value :=
  modifyGet fun s =>
    let (v, store) := s.store.share v
    (v, { s with store := store })

def paste (x : Excerpt) : Act Value :=
  modifyGet fun s =>
    let (v, store) := s.store.paste x
    (v, { s with store := store })

/-- A copy of a value with lists and mappings of its own. What is one of them at two places in the
value is one at both places in the copy. -/
def copy (v : Value) : Act Value := do
  paste ((← get).store.excerpt v)

def truthy (v : Value) : Act Bool := do
  return (← look v).truthy

def textOf (v : Value) : Act Text := do
  return (← resolve v).displayPresent

def display (v : Value) : Act Text := do
  return (← resolve v).display

def warn (t : Text) : Act Unit :=
  modify fun s => { s with warnings := s.warnings ++ [t] }

def run {α : Type} (a : Act α) (s : Session) : Except Fault α × Session :=
  StateT.run (ExceptT.run a) s

end Act

end Stencil
