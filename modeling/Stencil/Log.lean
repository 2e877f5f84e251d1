import Stencil.Disk.Task

namespace Stencil

namespace Log

def mainName : Text := "kapeta_codegen"

def nameOf (name : Text) : Text :=
  if name.isEmpty || name = mainName then mainName
  else if Text.startsWith (mainName ++ ['.']) name then name
  else mainName ++ '.' :: name

inductive Level
  | debug
  | warning
  deriving DecidableEq, Repr

def Level.rank : Level → Nat
  | debug => 10
  | warning => 30

inductive Sink
  | console
  | file
  deriving DecidableEq, Repr

structure Setup where
  level : Level
  sinks : List (Sink × Level)
  deriving DecidableEq, Repr

/-- The setup for a program that may be verbose and may keep a log file. The file gets all messages. -/
def setup (verbose hasFile : Bool) : Setup :=
  let level : Level := if verbose then .debug else .warning
  if hasFile then ⟨.debug, [(.console, level), (.file, .debug)]⟩ else ⟨level, [(.console, level)]⟩

def openFile (p : Path) : DiskTask Unit := do
  let p := p.absolute (← get).current
  match (← get).find p with
  | .ok (.file ..) => return ()
  | _ => DiskTask.change fun d => d.write p []

def configure (verbose : Bool) (file : Option Text) : DiskTask Setup := do
  match file with
  | some t => openFile (Path.parse t)
  | none => pure ()
  return setup verbose file.isSome

end Log

end Stencil
