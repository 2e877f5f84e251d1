import Stencil.Proofs.Engine.Session
import Stencil.Proofs.Engine.Store

namespace Stencil

/-- The first session stands inside the second one under other names, and both of them are inside the
same switches. -/
structure Session.Embeds (ρ : Nat → Nat) (rest : Nat → Option Cell) (around : List Text)
    (s s' : Session) : Prop where
  store : s.store.Embeds ρ rest s'.store
  inside : s.switches = around
  inside' : s'.switches = around

namespace Act

/-- Where one session stands inside another, the second action does there what the first one does
here; `r` renames what it answers. -/
def Mirrors {α β : Type} (ρ : Nat → Nat) (r : α → β) (a : Act α) (b : Act β) : Prop :=
  ∀ rest around s s', s.Embeds ρ rest around s' →
    (b.run s').1 = (a.run s).1.map r ∧ (a.run s).2.Embeds ρ rest around (b.run s').2

variable {α β γ δ : Type} {ρ : Nat → Nat}

namespace Mirrors

theorem pure {r : α → β} {x : α} {y : β} (h : y = r x) : Mirrors ρ r (pure x) (pure y) := by
  intro rest around s s' he
  exact ⟨congrArg Except.ok h, he⟩

theorem throw {r : α → β} (f : Fault) : Mirrors ρ r (throw f) (throw f) :=
  fun _ _ _ _ he => ⟨rfl, he⟩

theorem fail {r : α → β} (f : GeneralFault) : Mirrors ρ r (fail f) (fail f) :=
  throw (.general f)

theorem bind {r : α → β} {q : γ → δ} {a : Act α} {b : Act β} {f : α → Act γ} {g : β → Act δ}
    (h : Mirrors ρ r a b) (hf : ∀ x, Mirrors ρ q (f x) (g (r x))) :
    Mirrors ρ q (a >>= f) (b >>= g) := by
  intro rest around s s' he
  obtain ⟨heq, he'⟩ := h rest around s s' he
  rw [run_bind, run_bind]
  rcases ha : a.run s with ⟨_ | x, s₁⟩ <;> rcases hb : b.run s' with ⟨_ | y, s₁'⟩ <;>
    simp only [ha, hb, Except.map, reduceCtorEq, Except.error.injEq, Except.ok.injEq] at heq he'
  · exact ⟨congrArg Except.error heq, he'⟩
  · subst heq
    exact hf x rest around s₁ s₁' he'

/-- The rule for an answer that has nothing to rename. -/
theorem bindSame {q : γ → δ} {a b : Act α} {f : α → Act γ} {g : α → Act δ}
    (h : Mirrors ρ id a b) (hf : ∀ x, Mirrors ρ q (f x) (g x)) : Mirrors ρ q (a >>= f) (b >>= g) :=
  h.bind hf

/-- The rule for a failure under a condition, in front of anything else. -/
theorem failIf {q : γ → δ} {a : Act γ} {b : Act δ} (h : Mirrors ρ q a b) (c : Prop) [Decidable c]
    (f : GeneralFault) :
    Mirrors ρ q (if c then (Act.fail f : Act PUnit) >>= fun _ => a else a)
      (if c then (Act.fail f : Act PUnit) >>= fun _ => b else b) := by
  split
  next => exact (fail (r := id) f).bindSame fun _ => h
  next => exact h

theorem ofExcept {r : α → β} {x : Except Fault α} {y : Except Fault β} (h : y = x.map r) :
    Mirrors ρ r (ofExcept x) (ofExcept y) := by
  subst h
  cases x with
  | error f => exact throw f
  | ok x => exact pure rfl

theorem ofSame {x y : Except Fault α} (h : y = x) : Mirrors ρ id (Act.ofExcept x) (Act.ofExcept y) :=
  ofExcept (h.trans (by rw [Except.map_id]; rfl))

theorem map {r : α → β} {q : γ → δ} {a : Act α} {b : Act β} {f : α → γ} {g : β → δ}
    (h : Mirrors ρ r a b) (hf : ∀ x, g (r x) = q (f x)) : Mirrors ρ q (f <$> a) (g <$> b) := by
  rw [map_eq_pure_bind, map_eq_pure_bind]
  exact h.bind fun x => pure (hf x)

theorem look (v : Value) : Mirrors ρ (Value.rename ρ) (look v) (look (v.rename ρ)) :=
  fun _ _ _ _ he => ⟨congrArg Except.ok (he.store.look v), he⟩

theorem resolve (v : Value) : Mirrors ρ (Value.rename ρ) (resolve v) (resolve (v.rename ρ)) :=
  fun _ _ _ _ he => ⟨congrArg Except.ok (he.store.resolve v), he⟩

theorem share (v : Value) : Mirrors ρ (Value.rename ρ) (share v) (share (v.rename ρ)) := by
  intro rest around s s' he
  obtain ⟨heq, hs⟩ := he.store.share v
  exact ⟨congrArg Except.ok heq, hs, he.inside, he.inside'⟩

theorem truthy (v : Value) : Mirrors ρ id (truthy v) (truthy (v.rename ρ)) :=
  (look v).bind fun looked => pure (looked.truthy_rename ρ)

theorem textOf (v : Value) : Mirrors ρ id (textOf v) (textOf (v.rename ρ)) :=
  (resolve v).bind fun whole => pure (whole.displayPresent_rename ρ)

theorem display (v : Value) : Mirrors ρ id (display v) (display (v.rename ρ)) :=
  (resolve v).bind fun whole => pure (whole.display_rename ρ)

/-- A change beside the store and the switches goes unseen. -/
theorem modify {f g : Session → Session}
    (hf : ∀ s, (f s).store = s.store ∧ (f s).switches = s.switches)
    (hg : ∀ s, (g s).store = s.store ∧ (g s).switches = s.switches) :
    Mirrors ρ id (modify f : Act PUnit) (modify g : Act PUnit) := by
  intro rest around s s' he
  refine ⟨rfl, ?_, (hf s).2.trans he.inside, (hg s').2.trans he.inside'⟩
  show (f s).store.Embeds ρ rest (g s').store
  rw [(hf s).1, (hg s').1]
  exact he.store

theorem warn (t : Text) : Mirrors ρ id (warn t) (warn t) :=
  modify (fun _ => ⟨rfl, rfl⟩) fun _ => ⟨rfl, rfl⟩

/-- What is seen in one store is seen in the other under its other name. -/
theorem get {q : γ → δ} {f g : Session → Act _}
    (h : ∀ s s' : Session, (∀ v, s'.store.look (v.rename ρ) = (s.store.look v).rename ρ) →
      s'.switches = s.switches → Mirrors ρ q (f s) (g s')) :
    Mirrors ρ q (get >>= f) (get >>= g) :=
  fun rest around s s' he =>
    h s s' he.store.look (he.inside'.trans he.inside.symm) rest around s s' he

section

variable {r : α → β} {q : γ → δ}

theorem mapM {f : α → Act γ} {g : β → Act δ} (xs : List α)
    (h : ∀ x, Mirrors ρ q (f x) (g (r x))) :
    Mirrors ρ (List.map q) (xs.mapM f) ((xs.map r).mapM g) := by
  induction xs with
  | nil => exact pure rfl
  | cons x xs ih =>
    rw [List.map_cons, List.mapM_cons, List.mapM_cons]
    exact (h x).bind fun y => ih.bind fun ys => pure rfl

/-- The rule for a list that has nothing to rename. -/
theorem mapMOver {f : α → Act γ} {g : α → Act δ} (xs : List α)
    (h : ∀ x, Mirrors ρ q (f x) (g x)) : Mirrors ρ (List.map q) (xs.mapM f) (xs.mapM g) := by
  have hxs := mapM (r := id) xs h
  rwa [List.map_id] at hxs

/-- The rule for actions whose answers have nothing to rename. -/
theorem mapMSame {f : α → Act γ} {g : β → Act γ} (xs : List α)
    (h : ∀ x, Mirrors ρ id (f x) (g (r x))) : Mirrors ρ id (xs.mapM f) ((xs.map r).mapM g) := by
  rw [← List.map_id_fun]
  exact mapM xs h

theorem forM {f : α → Act PUnit} {g : β → Act PUnit} (xs : List α)
    (h : ∀ x, Mirrors ρ id (f x) (g (r x))) : Mirrors ρ id (xs.forM f) ((xs.map r).forM g) := by
  induction xs with
  | nil => exact pure rfl
  | cons x xs ih => exact (h x).bind fun _ => ih

theorem foldlM {f : γ → α → Act γ} {g : δ → β → Act δ} (xs : List α) (init : γ)
    (h : ∀ acc x, Mirrors ρ q (f acc x) (g (q acc) (r x))) :
    Mirrors ρ q (xs.foldlM f init) ((xs.map r).foldlM g (q init)) := by
  induction xs generalizing init with
  | nil => exact pure rfl
  | cons x xs ih =>
    rw [List.map_cons, List.foldlM_cons, List.foldlM_cons]
    exact (h init x).bind fun acc => ih acc

/-- The rule for a list that has nothing to rename. -/
theorem foldlMOver {f : γ → α → Act γ} {g : δ → α → Act δ} (xs : List α) (init : γ)
    (h : ∀ acc x, Mirrors ρ q (f acc x) (g (q acc) x)) :
    Mirrors ρ q (xs.foldlM f init) (xs.foldlM g (q init)) := by
  have hxs := foldlM (r := id) xs init h
  rwa [List.map_id] at hxs

/-- The rule for actions whose answers have nothing to rename. -/
theorem filterMapMSame {f : α → Act (Option γ)} {g : β → Act (Option γ)} (xs : List α)
    (h : ∀ x, Mirrors ρ id (f x) (g (r x))) :
    Mirrors ρ id (xs.filterMapM f) ((xs.map r).filterMapM g) := by
  induction xs with
  | nil => exact pure rfl
  | cons x xs ih =>
    rw [List.map_cons, List.filterMapM_cons, List.filterMapM_cons]
    refine (h x).bindSame fun y => ?_
    cases y with
    | none => exact ih
    | some y => exact ih.bindSame fun ys => pure rfl

theorem filterM {f : α → Act Bool} {g : β → Act Bool} (xs : List α)
    (h : ∀ x, Mirrors ρ id (f x) (g (r x))) :
    Mirrors ρ (List.map r) (xs.filterM f) ((xs.map r).filterM g) := by
  have hrest (kept : List α) :
      Mirrors ρ (List.map r) (xs.filterAuxM f kept) ((xs.map r).filterAuxM g (kept.map r)) := by
    induction xs generalizing kept with
    | nil => exact pure rfl
    | cons x xs ih =>
      refine (h x).bindSame fun b => ?_
      cases b with
      | true => exact ih (x :: kept)
      | false => exact ih kept
  exact (hrest []).bind fun kept => pure List.map_reverse.symm

end

end Mirrors

end Act

end Stencil
