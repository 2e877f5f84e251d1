import Stencil.CommandLine.Run

namespace Stencil.Program

open CommandLine

def maxDepth : Nat := 64

def nameAt (l : Location) : String :=
  String.ofList ('/' :: Text.join ['/'] l)

/-- Reads what stands at a location, with everything below it. The permissions of files stay
unknown. -/
def importAt : Nat → Location → Disk → IO Disk
  | 0, _, d => return d
  | n + 1, l, d => do
    let path := System.mkFilePath [nameAt l]
    if ← path.isDir then
      let mut d := if l.isEmpty then d else d.put l .directory
      for e in ← path.readDir do
        d ← importAt n (l ++ [e.fileName.toList]) d
      return d
    else if ← path.pathExists then
      return d.put l (.file (← IO.FS.readBinFile path).toList 0)
    else return d

def importPlace (p : Path) (d : Disk) : IO Disk := do
  let l := (p.absolute d.current).parts
  let mut d := d
  for n in List.range l.length do
    let above := l.take n
    if !above.isEmpty && (← (System.mkFilePath [nameAt above]).isDir) then d := d.put above .directory
  importAt maxDepth l d

def rights (bits : Nat) : IO.AccessRight :=
  ⟨bits / 4 % 2 = 1, bits / 2 % 2 = 1, bits % 2 = 1⟩

def exportChanges (old new : Disk) : IO Unit := do
  for (l, n) in new.nodes do
    if old.node? l ≠ some n then
      let path := System.mkFilePath [nameAt l]
      match n with
      | .directory => IO.FS.createDirAll path
      | .file bytes mode =>
        IO.FS.writeBinFile path (ByteArray.mk bytes.toArray)
        IO.setAccessRights path ⟨rights (mode / 64), rights (mode / 8), rights mode⟩

/-- The disk as far as a command line needs it. -/
def diskFor (ts : List Text) (current : Location) : IO Disk := do
  let mut d : Disk := { current }
  match Invocation.read ts with
  | .ok i =>
    if let some file := i.logFile then d ← importPlace (Path.parse file) d
    if let some (.generate g) := i.command then
      for p in places g d do d ← importPlace p d
      for p in places g d do d ← importPlace p d
    return d
  | .error _ => return d

def usage : String :=
  "usage: stencil [-h] [--version] [--verbose] [--log-file FILE] (generate | languages) ..."

/-- Runs the program with its arguments and answers its exit code. -/
def runWith (args : List String) : IO UInt32 := do
  let current := (Path.parse (← IO.currentDir).toString.toList).parts
  let ts := args.map String.toList
  let before ← diskFor ts current
  let (report, job) := (CommandLine.run (fun _ => .noConnection) ts).run { disk := before }
  exportChanges before job.disk
  for line in report.lines do
    IO.println (String.ofList (Text.join "  ".toList line))
  match report.ending with
  | .returned code => return UInt32.ofNat code
  | .stopped .answered => IO.println usage; return 0
  | .stopped .misused => IO.eprintln usage; return 2
  | .failed f => IO.eprintln (String.ofList (f.label ++ ": ".toList ++ f.message)); return 1

end Stencil.Program

def main (args : List String) : IO UInt32 :=
  Stencil.Program.runWith args
