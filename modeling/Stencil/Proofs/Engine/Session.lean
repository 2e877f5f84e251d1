import Stencil.Engine.Session

namespace Stencil

namespace Act

variable {α β : Type} {s s' : Session}

@[simp]
theorem run_pure (a : α) (s : Session) : (pure a : Act α).run s = (.ok a, s) := rfl

theorem run_bind (a : Act α) (f : α → Act β) (s : Session) :
    (a >>= f).run s =
      match a.run s with
      | (.ok x, s') => (f x).run s'
      | (.error e, s') => (.error e, s') := by
  unfold run
  rw [ExceptT.run_bind, StateT.run_bind]
  rcases StateT.run (ExceptT.run a) s with ⟨_ | x, s'⟩ <;> rfl

theorem run_bind_ok {a : Act α} {x : α} (f : α → Act β) (h : a.run s = (.ok x, s')) :
    (a >>= f).run s = (f x).run s' := by
  rw [run_bind, h]

theorem run_bind_error {a : Act α} {e : Fault} (f : α → Act β) (h : a.run s = (.error e, s')) :
    (a >>= f).run s = (.error e, s') := by
  rw [run_bind, h]

theorem run_bind_pure {a : Act α} {x : Except Fault α} (g : α → β) (h : a.run s = (x, s')) :
    (do return g (← a)).run s = (x.map g, s') := by
  cases x with
  | error e => exact run_bind_error _ h
  | ok x => exact run_bind_ok _ h

theorem run_mapM_of_forall {f : α → Act β} {g : α → β} (h : ∀ x, (f x).run s = (.ok (g x), s))
    (xs : List α) : (xs.mapM f).run s = (.ok (xs.map g), s) := by
  induction xs with
  | nil => rfl
  | cons x xs ih =>
    rw [List.mapM_cons, run_bind_ok _ (h x), run_bind_ok _ ih]
    rfl

@[simp]
theorem run_ofExcept (x : Except Fault α) (s : Session) : (ofExcept x).run s = (x, s) := by
  cases x <;> rfl

@[simp]
theorem run_look (v : Value) (s : Session) : (look v).run s = (.ok (s.store.look v), s) := rfl

@[simp]
theorem run_resolve (v : Value) (s : Session) :
    (resolve v).run s = (.ok (s.store.resolve v), s) := rfl

@[simp]
theorem run_warn (t : Text) (s : Session) :
    (warn t).run s = (.ok (), { s with warnings := s.warnings ++ [t] }) := rfl

theorem run_forM_warn (ts : List Text) (s : Session) :
    (ts.forM warn).run s = (.ok (), { s with warnings := s.warnings ++ ts }) := by
  induction ts generalizing s with
  | nil => simp
  | cons t ts ih =>
    show (warn t >>= fun _ => ts.forM warn).run s = _
    rw [run_bind_ok _ (run_warn t s), ih]
    simp

theorem run_tryCatch (a : Act α) (handle : Fault → Act α) (s : Session) :
    (tryCatch a handle).run s =
      match a.run s with
      | (.ok x, s') => (.ok x, s')
      | (.error e, s') => (handle e).run s' := by
  unfold run
  rw [ExceptT.run_tryCatch, StateT.run_bind]
  rcases StateT.run (ExceptT.run a) s with ⟨_ | x, s'⟩ <;> rfl

end Act

@[simp]
theorem Store.resolve_null (s : Store) : s.resolve .null = .null := rfl

end Stencil
