import Stencil.Digest.Sha256
import Stencil.Disk.Task
import Stencil.Output.File
import Stencil.Text.Numeral

namespace Stencil

/-- How a new file is joined with the one that stands on disk, given the version that was generated
the last time. -/
abbrev Merge := SourceFile → GeneratedFile → Option GeneratedFile → Except Fault GeneratedFile

def refuseMerge : Merge := fun source _ _ =>
  .error (.mergeUnsupported source.filename)

/-- The versions that were generated the last time, by filename. -/
abbrev Versions := List (Text × GeneratedFile)

/-- Permissions are numbers of 32 bits with a sign. -/
def permissionLimit : Int := 0x80000000

def permissionBits (t : Text) : Except Fault Nat :=
  match Text.octal? t with
  | none => .error (.general .badValue)
  | some n =>
    if -permissionLimit ≤ n ∧ n < permissionLimit then .ok (n % 0o10000).toNat
    else .error (.general .overflow)

def permissionText (mode : Nat) : Text :=
  Text.octal (mode % 0o1000)

/-- What a file on disk holds, for a merge. -/
def sourceAt (p : Path) (filename : Text) (d : Disk) : Except Fault SourceFile := do
  match Text.decode? (← DiskTask.ofObstacle (d.read p)) with
  | none => throw (.general .undecodable)
  | some t =>
    return ⟨filename, Text.normalizeNewlines t, permissionText (← DiskTask.ofObstacle (d.mode p))⟩

/-- What is to be written for a file, and nothing if what stands on disk is to stay. -/
def outputFor (merge : Merge) (last : Versions) (p : Path) (f : GeneratedFile) (d : Disk) :
    Except Fault (Option GeneratedFile) := do
  if f.mode = .skip then return none
  if !(← d.exists p) then return some f
  match f.mode with
  | .createOnly => return none
  | .merge => return some (← merge (← sourceAt p f.filename d) f (last.lookup f.filename))
  | _ => return some f

/-- Puts a text into a file and then gives it its permissions. -/
def storeText (p : Path) (content permissions : Text) : DiskTask Unit := do
  DiskTask.change fun d => d.ensureDirectories p.parent
  DiskTask.change fun d => d.write p (Text.encode content)
  let mode ← DiskTask.ofExcept (permissionBits permissions)
  DiskTask.change fun d => d.setMode p mode

def GeneratedFile.asset (f : GeneratedFile) : Asset :=
  ⟨f.filename, f.mode, f.permissions, checksum f.content⟩

def writeFile (merge : Merge) (last : Versions) (root : Path) (f : GeneratedFile) :
    DiskTask (Option Asset) := do
  match ← DiskTask.ask (outputFor merge last (root.child f.filename) f) with
  | none => return none
  | some output =>
    storeText (root.child f.filename) output.content output.permissions
    return some output.asset

/-- Writes files in order and answers the records of those that were written. A file that cannot be
written ends the writing; what was written before it stays. -/
def writeFiles (merge : Merge) (last : Versions) (root : Path) :
    List GeneratedFile → DiskTask (List Asset)
  | [] => return []
  | f :: files => do
    let asset ← writeFile merge last root f
    return asset.toList ++ (← writeFiles merge last root files)

end Stencil
