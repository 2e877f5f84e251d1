import Stencil.Disk.Task

namespace Stencil.DiskTask

variable {α β : Type} {d d' : Disk}

@[simp]
theorem run_pure (a : α) (d : Disk) : (pure a : DiskTask α).run d = (.ok a, d) := rfl

theorem run_bind (a : DiskTask α) (f : α → DiskTask β) (d : Disk) :
    (a >>= f).run d =
      match a.run d with
      | (.ok x, d') => (f x).run d'
      | (.error e, d') => (.error e, d') := by
  unfold run
  rw [ExceptT.run_bind, StateT.run_bind]
  rcases StateT.run (ExceptT.run a) d with ⟨_ | x, d'⟩ <;> rfl

theorem run_bind_ok {a : DiskTask α} {x : α} (f : α → DiskTask β) (h : a.run d = (.ok x, d')) :
    (a >>= f).run d = (f x).run d' := by
  rw [run_bind, h]

theorem run_bind_error {a : DiskTask α} {e : Fault} (f : α → DiskTask β)
    (h : a.run d = (.error e, d')) : (a >>= f).run d = (.error e, d') := by
  rw [run_bind, h]

theorem run_bind_pure_snd (a : DiskTask α) (f : α → β) (d : Disk) :
    ((a >>= fun x => pure (f x)).run d).2 = (a.run d).2 := by
  rw [run_bind]
  rcases a.run d with ⟨_ | x, d'⟩ <;> rfl

/-- Two actions that succeed one after the other, with the disk between them. -/
theorem run_bind_eq_ok {a : DiskTask α} {f : α → DiskTask β} {y : β} :
    (a >>= f).run d = (.ok y, d') ↔
      ∃ x d₁, a.run d = (.ok x, d₁) ∧ (f x).run d₁ = (.ok y, d') := by
  rw [run_bind]
  rcases a.run d with ⟨e | x, d₁⟩
  · simp
  · constructor
    · exact fun h => ⟨x, d₁, rfl, h⟩
    · rintro ⟨x', d₁', heq, h⟩
      cases heq
      exact h

@[simp]
theorem run_ofExcept (x : Except Fault α) (d : Disk) : (ofExcept x).run d = (x, d) := by
  cases x <;> rfl

@[simp]
theorem run_ask (f : Disk → Except Fault α) (d : Disk) : (ask f).run d = (f d, d) :=
  run_ofExcept (f d) d

theorem run_change {f : Disk → Except Disk.Obstacle Disk} (h : f d = .ok d') :
    (change f).run d = (.ok (), d') := by
  have hask : (ask fun d => ofObstacle (f d)).run d = (.ok d', d) := by
    rw [run_ask, h]
    rfl
  rw [change, run_bind_ok _ hask]
  rfl

/-- A change that meets an obstacle leaves the disk as it was. -/
theorem run_change_of_error {f : Disk → Except Disk.Obstacle Disk} {o : Disk.Obstacle}
    (h : f d = .error o) : (change f).run d = (.error o.fault, d) := by
  have hask : (ask fun d => ofObstacle (f d)).run d = (.error o.fault, d) := by
    rw [run_ask, h]
    rfl
  rw [change, run_bind, hask]

theorem run_change_eq_ok {f : Disk → Except Disk.Obstacle Disk} {u : Unit} :
    (change f).run d = (.ok u, d') ↔ f d = .ok d' := by
  constructor
  · intro h
    cases hf : f d with
    | error o =>
      rw [run_change_of_error hf] at h
      exact absurd (congrArg Prod.fst h) (by simp)
    | ok d₁ =>
      rw [run_change hf] at h
      rw [(Prod.mk.inj h).2]
  · exact run_change

end Stencil.DiskTask
