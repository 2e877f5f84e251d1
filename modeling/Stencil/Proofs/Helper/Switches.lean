import Stencil.Helper.Table
import Stencil.Proofs.Engine.Session

namespace Stencil

/-- A text, or a switch or case around further passages. Each of these has something to compare. -/
inductive Passage
  | text (t : Text)
  | switch (v : Value) (inner : List Passage)
  | case (v : Value) (inner : List Passage)

/-- A block around a text, with the text that it compares. -/
inductive Around
  | switch (t : Text)
  | case (t : Text)

namespace Around

/-- The text of the innermost switch. The innermost block comes first. -/
def innermost? : List Around → Option Text
  | [] => none
  | switch t :: _ => some t
  | case _ :: around => innermost? around

/-- Every case is equal to the innermost switch around it. -/
def isShown : List Around → Bool
  | [] => true
  | switch _ :: around => isShown around
  | case t :: around => innermost? around = some t && isShown around

/-- The texts that are shown, one behind the other. -/
def shown (leaves : List (List Around × Text)) : Text :=
  (leaves.filter fun leaf => isShown leaf.1).flatMap Prod.snd

@[simp]
theorem shown_append (leaves others : List (List Around × Text)) :
    shown (leaves ++ others) = shown leaves ++ shown others := by
  simp [shown]

end Around

namespace Helper

variable {v : Value} {b : Option Block} {s : Session} {t : Text}

/-- What a switch or case compares. -/
def keyIn (store : Store) (v : Value) : Text :=
  compareText (store.resolve v)

theorem run_withSwitch {α : Type} {a : Act α} {x : Except Fault α} {s' : Session}
    (h : a.run { s with switches := t :: s.switches } = (x, s')) :
    (withSwitch t a).run s = (x, { s' with switches := s'.switches.drop 1 }) := by
  have hrun : (withSwitch t a).run s =
      ((a.run { s with switches := t :: s.switches }).1,
        { (a.run { s with switches := t :: s.switches }).2 with
          switches := (a.run { s with switches := t :: s.switches }).2.switches.drop 1 }) := rfl
  rw [hrun, h]

theorem run_switch
    (h : (renderBlock b []).run { s with switches := keyIn s.store v :: s.switches } =
      (.ok t, { s with switches := keyIn s.store v :: s.switches })) :
    (switch v b).run s = (.ok (.markup t), s) := by
  rw [switch, Act.run_bind_ok _ (Act.run_resolve v s)]
  exact run_withSwitch (Act.run_bind_pure Value.markup h)

theorem run_case (v : Value) (b : Option Block) (s : Session) : (case v b).run s =
    if s.switches.head? = some (keyIn s.store v) then
      (do return .markup (← renderBlock b []) : Act Value).run s
    else (.ok (.markup []), s) := by
  have hget : (get : Act Session).run s = (.ok s, s) := rfl
  rw [case, Act.run_bind_ok _ (Act.run_resolve v s), Act.run_bind_ok _ hget]
  cases s.switches with
  | nil => rfl
  | cons current outer =>
    by_cases heq : keyIn s.store v = current
    · rw [List.head?_cons, if_pos (congrArg some heq.symm)]
      exact congrArg (Act.run · s) (if_pos heq)
    · rw [List.head?_cons, if_neg fun h => heq (Option.some.inj h).symm]
      exact congrArg (Act.run · s) (if_neg heq)

end Helper

namespace Passage

open Around Helper

variable (key : Value → Text)

mutual

/-- The texts of a passage with the blocks around each; the given blocks are the outer ones. -/
def leaves : Passage → List Around → List (List Around × Text)
  | text t, around => [(around, t)]
  | switch v inner, around => leavesOf inner (.switch (key v) :: around)
  | case v inner, around => leavesOf inner (.case (key v) :: around)

def leavesOf : List Passage → List Around → List (List Around × Text)
  | [], _ => []
  | p :: ps, around => p.leaves around ++ leavesOf ps around

end

variable {key}

mutual

/-- Nothing is shown below a case that is not. -/
theorem shown_leaves_of_hidden : (p : Passage) → {around : List Around} →
    isShown around = false → shown (p.leaves key around) = []
  | text t, _, h => by simp [leaves, shown, h]
  | switch v inner, around, h =>
    have hinner : isShown (.switch (key v) :: around) = false := h
    shown_leavesOf_of_hidden inner hinner
  | case v inner, _, h => by
    refine shown_leavesOf_of_hidden inner ?_
    rw [isShown, h, Bool.and_false]

theorem shown_leavesOf_of_hidden : (ps : List Passage) → {around : List Around} →
    isShown around = false → shown (leavesOf key ps around) = []
  | [], _, _ => rfl
  | p :: ps, _, h => by
    rw [leavesOf, shown_append, shown_leaves_of_hidden p h, shown_leavesOf_of_hidden ps h]
    rfl

end

/-- With a certain store, and inside of blocks that are shown and whose innermost switch is that of
the session, an action answers what is shown of texts and leaves the session as it is. -/
def Shows {β : Type} (store : Store) (a : Act β) (answer : Text → β)
    (leaves : List Around → List (List Around × Text)) : Prop :=
  ∀ s around, s.store = store → isShown around = true → innermost? around = s.switches.head? →
    a.run s = (.ok (answer (shown (leaves around))), s)

variable {store : Store} {v : Value} {inner : List Passage}

namespace Shows

variable {β γ : Type} {a : Act β} {answer : Text → β} {f : Block}

theorem text (answer : Text → β) (t : Text) :
    Shows store (pure (answer t)) answer ((Passage.text t).leaves key) := by
  intro s around _ hshown _
  simp [Passage.leaves, shown, hshown]

theorem bind {leaves : List Around → List (List Around × Text)} {g : β → Act γ}
    {answer' : Text → γ} (h : Shows store a answer leaves)
    (hg : ∀ t s, (g (answer t)).run s = (.ok (answer' t), s)) :
    Shows store (a >>= g) answer' leaves := by
  intro s around hstore hshown hinside
  rw [Act.run_bind_ok _ (h s around hstore hshown hinside)]
  exact hg _ s

theorem switch (h : Shows store (f []) id (leavesOf (keyIn store) inner)) :
    Shows store (Helper.switch v (some f)) .markup
      ((Passage.switch v inner).leaves (keyIn store)) := by
  rintro s around rfl hshown _
  exact run_switch (h { s with switches := keyIn s.store v :: s.switches }
    (.switch (keyIn s.store v) :: around) rfl hshown rfl)

theorem case (h : Shows store (f []) id (leavesOf (keyIn store) inner)) :
    Shows store (Helper.case v (some f)) .markup
      ((Passage.case v inner).leaves (keyIn store)) := by
  rintro s around rfl hshown hinside
  rw [run_case, ← hinside, leaves]
  split
  next heq =>
    have hcase : isShown (.case (keyIn s.store v) :: around) = true := by
      simp [isShown, heq, hshown]
    exact Act.run_bind_pure Value.markup (h s _ rfl hcase hinside)
  next hne =>
    have hcase : isShown (.case (keyIn s.store v) :: around) = false := by
      simp [isShown, hne]
    rw [shown_leavesOf_of_hidden inner hcase]

end Shows

end Passage

/-- Calls a helper by its name. -/
def Helper.callNamed (e : Engine) (data : Value) (name : Text) (a : Arguments) : Act Value :=
  match find? name with
  | some h => call e data h a
  | none => Act.fail .undefined

section

variable (e : Engine) (data v : Value) (b : Block)

theorem Helper.callNamed_switch :
    callNamed e data "switch" ⟨[v], [], some b⟩ = switch v (some b) := rfl

theorem Helper.callNamed_case : callNamed e data "case" ⟨[v], [], some b⟩ = case v (some b) := rfl

end

namespace Passage

open Around Helper

variable (e : Engine) (data : Value)

mutual

/-- Calls the helpers of nested blocks. -/
def render : Passage → Act Text
  | text t => pure t
  | switch v inner => do
    return (← callNamed e data "switch" ⟨[v], [], some fun _ => renderAll inner⟩).display
  | case v inner => do
    return (← callNamed e data "case" ⟨[v], [], some fun _ => renderAll inner⟩).display

def renderAll : List Passage → Act Text
  | [] => pure []
  | p :: ps => do
    let t ← render p
    return t ++ (← renderAll ps)

end

variable (store : Store)

mutual

theorem shows_render : (p : Passage) →
    Shows store (p.render e data) id (p.leaves (keyIn store))
  | text t => .text id t
  | switch v inner => by
    have hswitch : Shows store (Helper.switch v (some fun _ => renderAll e data inner)) .markup
        ((switch v inner).leaves (keyIn store)) := .switch (shows_renderAll inner)
    rw [render, callNamed_switch]
    exact hswitch.bind fun _ _ => rfl
  | case v inner => by
    have hcase : Shows store (Helper.case v (some fun _ => renderAll e data inner)) .markup
        ((case v inner).leaves (keyIn store)) := .case (shows_renderAll inner)
    rw [render, callNamed_case]
    exact hcase.bind fun _ _ => rfl

theorem shows_renderAll : (ps : List Passage) →
    Shows store (renderAll e data ps) id (leavesOf (keyIn store) ps)
  | [], _, _, _, _, _ => rfl
  | p :: ps, s, around, hstore, hshown, hinside => by
    rw [renderAll, Act.run_bind_ok _ (shows_render p s around hstore hshown hinside),
      Act.run_bind_ok _ (shows_renderAll ps s around hstore hshown hinside), leavesOf, shown_append]
    rfl

end

end Passage

end Stencil
