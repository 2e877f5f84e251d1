import Stencil.Disk.Task
import Stencil.Engine.Session

namespace Stencil

structure Request where
  url : Text
  timeout : Int
  deriving DecidableEq, Repr

inductive Reply
  | timedOut
  | noConnection
  | failed (detail : Text)
  | answered (status : Int) (body : Text) (headers : List (Text × Text))
  deriving DecidableEq, Repr

inductive Event
  | preprocessed
  | postprocessed (filenames : List Text)
  deriving DecidableEq

structure Job where
  session : Session := {}
  disk : Disk := {}
  requests : List Request := []
  journal : List Event := []

/-- A part of a job, which may fail and may change it in either case. -/
abbrev Work := ExceptT Fault (StateM Job)

namespace Work

def ofExcept {α : Type} : Except Fault α → Work α
  | .ok a => pure a
  | .error f => throw f

def ofAct {α : Type} (a : Act α) : Work α := do
  let job ← get
  let (result, session) := a.run job.session
  set { job with session }
  ofExcept result

def ofDisk {α : Type} (a : DiskTask α) : Work α := do
  let job ← get
  let (result, disk) := a.run job.disk
  set { job with disk }
  ofExcept result

def ask (fetch : Request → Reply) (r : Request) : Work Reply := do
  modify fun job => { job with requests := job.requests ++ [r] }
  return fetch r

def note (e : Event) : Work Unit :=
  modify fun job => { job with journal := job.journal ++ [e] }

def run {α : Type} (a : Work α) (job : Job) : Except Fault α × Job :=
  StateT.run (ExceptT.run a) job

end Work

end Stencil
