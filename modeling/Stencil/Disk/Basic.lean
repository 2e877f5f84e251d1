import Stencil.Disk.Path
import Stencil.Fault
import Stencil.Text.Order
import Stencil.Text.Utf8

namespace Stencil

abbrev Location := List Text

inductive Node
  | file (bytes : Text.Bytes) (mode : Nat)
  | directory
  deriving DecidableEq

/-- What stands at which location. Files have permissions, but a disk lets its one user read and
write whatever they say. -/
structure Disk where
  nodes : List (Location × Node) := []
  /-- The directory that relative paths begin in. -/
  current : Location := []
  deriving DecidableEq

namespace Disk

inductive Obstacle
  | missing
  | notDirectory
  | isDirectory
  | exists
  | tooLong
  | badName
  deriving DecidableEq, Repr

def Obstacle.fault : Obstacle → Fault
  | missing => .general .fileNotFound
  | notDirectory => .general .notDirectory
  | isDirectory => .general .isDirectory
  | «exists» => .general .fileExists
  | tooLong => .general .osError
  | badName => .general .badValue

/-- What stands at a location; the root is a directory. -/
def node? (d : Disk) (l : Location) : Option Node :=
  match l with
  | [] => some .directory
  | _ => d.nodes.lookup l

def isDirectoryAt (d : Disk) (l : Location) : Bool :=
  d.node? l = some .directory

def put (d : Disk) (l : Location) (n : Node) : Disk :=
  if (d.nodes.lookup l).isSome then
    { d with nodes := d.nodes.map fun (m, old) => if m = l then (m, n) else (m, old) }
  else { d with nodes := d.nodes ++ [(l, n)] }

def maxNameBytes : Nat := 255

def follow (d : Disk) : Location → List Text → Except Obstacle Location
  | l, [] => .ok l
  | l, part :: parts =>
    match d.node? l with
    | none => .error .missing
    | some (.file ..) => .error .notDirectory
    | some .directory =>
      if maxNameBytes < (Text.encode part).length then .error .tooLong
      else if part = ['.', '.'] then follow d l.dropLast parts
      else follow d (l ++ [part]) parts

/-- The location that a path leads to; nothing needs to stand there. Only single components can be
too long, the whole path is as long as it likes. -/
def locate (d : Disk) (p : Path) : Except Obstacle Location :=
  if p.parts.any fun part => part.contains '\x00' then .error .badName
  else d.follow (if p.isAbsolute then [] else d.current) p.parts

def find (d : Disk) (p : Path) : Except Obstacle Node := do
  match d.node? (← d.locate p) with
  | some n => return n
  | none => throw .missing

/-- Something stands where a path leads. Only an unusable path is an error. -/
def «exists» (d : Disk) (p : Path) : Except Fault Bool :=
  match d.find p with
  | .ok _ => .ok true
  | .error .tooLong => .error Obstacle.tooLong.fault
  | .error _ => .ok false

def isDirectory (d : Disk) (p : Path) : Except Fault Bool :=
  match d.find p with
  | .ok n => .ok (n = .directory)
  | .error .tooLong => .error Obstacle.tooLong.fault
  | .error _ => .ok false

def read (d : Disk) (p : Path) : Except Obstacle Text.Bytes := do
  match ← d.find p with
  | .file bytes _ => return bytes
  | .directory => throw .isDirectory

def mode (d : Disk) (p : Path) : Except Obstacle Nat := do
  match ← d.find p with
  | .file _ mode => return mode
  | .directory => return 0o755

def newFileMode : Nat := 0o644

/-- Writes a file. A file that is there keeps its permissions, which do not stand in the way. -/
def write (d : Disk) (p : Path) (bytes : Text.Bytes) : Except Obstacle Disk := do
  let l ← d.locate p
  match d.node? l with
  | some .directory => throw .isDirectory
  | some (.file _ mode) => return d.put l (.file bytes mode)
  | none =>
    if d.isDirectoryAt l.dropLast then return d.put l (.file bytes newFileMode) else throw .missing

def makeDirectory (d : Disk) (p : Path) : Except Obstacle Disk := do
  let l ← d.locate p
  match d.node? l with
  | some _ => throw .exists
  | none =>
    if d.isDirectoryAt l.dropLast then return d.put l .directory else throw .missing

def ensureDirectory (d : Disk) (p : Path) : Except Obstacle Disk :=
  match d.makeDirectory p with
  | .ok d => .ok d
  | .error .missing => .error .missing
  | .error o => if (d.find p).toOption = some .directory then .ok d else .error o

/-- Makes the directories of a path, given by its components from the last to the first. -/
def ensureFrom (d : Disk) (root : Text) : List Text → Except Obstacle Disk
  | [] => d.ensureDirectory ⟨root, []⟩
  | part :: parts =>
    let p : Path := ⟨root, (part :: parts).reverse⟩
    match d.makeDirectory p with
    | .ok d => .ok d
    | .error .missing => do (← ensureFrom d root parts).ensureDirectory p
    | .error o => if (d.find p).toOption = some .directory then .ok d else .error o

def ensureDirectories (d : Disk) (p : Path) : Except Obstacle Disk :=
  d.ensureFrom p.root p.parts.reverse

def setMode (d : Disk) (p : Path) (mode : Nat) : Except Obstacle Disk := do
  let l ← d.locate p
  match d.node? l with
  | some (.file bytes _) => return d.put l (.file bytes mode)
  | some .directory => return d
  | none => throw .missing

def names (d : Disk) (l : Location) : List Text :=
  Text.sorted (d.nodes.filterMap fun (m, _) =>
    match m.getLast? with
    | some name => if m = l ++ [name] then some name else none
    | none => none)

/-- The locations of the files below a directory, by name, and those of a directory where its name
comes. -/
def walkFrom (d : Disk) : Nat → Location → List Location
  | 0, _ => []
  | n + 1, l => (d.names l).flatMap fun name =>
    if d.isDirectoryAt (l ++ [name]) then walkFrom d n (l ++ [name]) else [l ++ [name]]

def walk (d : Disk) (l : Location) : List Location :=
  d.walkFrom (d.nodes.length + 1) l

def tree (d : Disk) (l : Location) : List (Text × Text.Bytes × Nat) :=
  d.nodes.filterMap fun (m, n) =>
    match n with
    | .file bytes mode =>
      if l.isPrefixOf m && l.length < m.length then
        some (Text.join ['/'] (m.drop l.length), bytes, mode)
      else none
    | .directory => none

end Disk

end Stencil
