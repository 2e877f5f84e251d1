import Stencil.Disk.Basic

namespace Stencil

/-- An action on a disk. One that fails keeps the changes made before its failure. -/
abbrev DiskTask := ExceptT Fault (StateM Disk)

namespace DiskTask

def ofExcept {α : Type} : Except Fault α → DiskTask α
  | .ok a => pure a
  | .error f => throw f

def ofObstacle {α : Type} : Except Disk.Obstacle α → Except Fault α
  | .ok a => .ok a
  | .error o => .error o.fault

def ask {α : Type} (f : Disk → Except Fault α) : DiskTask α := do
  ofExcept (f (← get))

def change (f : Disk → Except Disk.Obstacle Disk) : DiskTask Unit := do
  set (← ask fun d => ofObstacle (f d))

def run {α : Type} (a : DiskTask α) (d : Disk) : Except Fault α × Disk :=
  StateT.run (ExceptT.run a) d

end DiskTask

end Stencil
