import Stencil.Job

namespace Stencil.Work

variable {α β : Type} {job job' : Job}

@[simp]
theorem run_get (job : Job) : (get : Work Job).run job = (.ok job, job) := rfl

theorem run_bind (a : Work α) (f : α → Work β) (job : Job) :
    (a >>= f).run job =
      match a.run job with
      | (.ok x, job') => (f x).run job'
      | (.error e, job') => (.error e, job') := by
  unfold run
  rw [ExceptT.run_bind, StateT.run_bind]
  rcases StateT.run (ExceptT.run a) job with ⟨_ | x, job'⟩ <;> rfl

theorem run_bind_ok {a : Work α} {x : α} (f : α → Work β) (h : a.run job = (.ok x, job')) :
    (a >>= f).run job = (f x).run job' := by
  rw [run_bind, h]

theorem run_bind_error {a : Work α} {e : Fault} (f : α → Work β)
    (h : a.run job = (.error e, job')) : (a >>= f).run job = (.error e, job') := by
  rw [run_bind, h]

theorem run_ofAct {a : Act α} {x : Except Fault α} {s : Session} (h : a.run job.session = (x, s)) :
    (ofAct a).run job = (x, { job with session := s }) := by
  rw [ofAct, run_bind_ok _ (run_get job), h]
  cases x <;> rfl

theorem run_ofDisk {a : DiskTask α} {x : Except Fault α} {d : Disk} (h : a.run job.disk = (x, d)) :
    (ofDisk a).run job = (x, { job with disk := d }) := by
  rw [ofDisk, run_bind_ok _ (run_get job), h]
  cases x <;> rfl

end Stencil.Work
