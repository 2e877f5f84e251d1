import Stencil.Proofs.Template.Filter
import Stencil.Template.Run

namespace Stencil

open Act (Mirrors)

namespace Template

variable {ρ : Nat → Nat}

def Frame.rename (ρ : Nat → Nat) (f : Frame) : Frame where
  names := f.names.map (Value.renameAt ρ)
  assigned := f.assigned.map (Value.renameAt ρ)
  isLoop := f.isLoop

namespace Scope

def rename (ρ : Nat → Nat) (sc : Scope) : Scope where
  frames := sc.frames.map (Frame.rename ρ)
  top := sc.top.map (Value.renameAt ρ)
  given := sc.given.map (Value.renameAt ρ)

theorem visible_rename (sc : Scope) :
    (sc.rename ρ).visible = sc.visible.map (Value.renameAt ρ) := by
  simp [visible, rename, List.flatMap_map, List.map_flatMap, Frame.rename]

theorem get?_rename (sc : Scope) (name : Text) :
    (sc.rename ρ).get? name = (sc.get? name).map (Value.rename ρ) := by
  rw [get?, get?, visible_rename, Value.lookup_map_renameAt]

theorem data_rename (sc : Scope) : (sc.rename ρ).data = sc.data.rename ρ := by
  have hlookup (own : Bindings) :
      ((own.map (Value.renameAt ρ) ++ sc.top.map (Value.renameAt ρ) ++
        sc.given.map (Value.renameAt ρ)).lookup "data".toList).getD .null =
      (((own ++ sc.top ++ sc.given).lookup "data".toList).getD .null).rename ρ := by
    rw [← List.map_append, ← List.map_append, Value.lookup_map_renameAt]
    exact Value.getD_map_rename ρ _ .null
  obtain ⟨frames, top, given⟩ := sc
  cases frames with
  | nil => exact hlookup []
  | cons f frames =>
    obtain ⟨names, assigned, isLoop⟩ := f
    cases isLoop with
    | true => exact hlookup assigned
    | false => exact hlookup []

theorem assign_rename (sc : Scope) (names : Bindings) :
    (sc.assign names).rename ρ = (sc.rename ρ).assign (names.map (Value.renameAt ρ)) := by
  obtain ⟨frames, top, given⟩ := sc
  cases frames <;> simp [assign, rename, Frame.rename]

end Scope

mutual

theorem Pattern.mirrors_bind : (p : Pattern) → (v : Value) →
    Mirrors ρ (List.map (Value.renameAt ρ)) (p.bind v) (p.bind (v.rename ρ))
  | .name _, v => (Mirrors.share v).bind fun _ => .pure rfl
  | .tuple ps, v =>
    (Mirrors.look v).bind fun looked =>
      (Mirrors.ofExcept (looked.iterate_rename ρ)).bind fun items => Pattern.mirrors_bindAll ps items
  | .field _ _, _ => .fail _

theorem Pattern.mirrors_bindAll : (ps : List Pattern) → (vs : List Value) →
    Mirrors ρ (List.map (Value.renameAt ρ)) (Pattern.bindAll ps vs)
      (Pattern.bindAll ps (vs.map (Value.rename ρ)))
  | [], [] => .pure rfl
  | p :: ps, v :: vs =>
    (Pattern.mirrors_bind p v).bind fun first => (Pattern.mirrors_bindAll ps vs).bind fun others =>
      .pure (by rw [List.map_append])
  | [], _ :: _ | _ :: _, [] => .fail _

end

def Evaluated.rename (ρ : Nat → Nat) (a : Evaluated) : Evaluated where
  values := a.values.map (Value.rename ρ)
  named := a.named.map (Value.renameAt ρ)

theorem mirrored_toArguments (a : Evaluated) {b b' : Option Block}
    (h : Helper.MirroredBlock ρ b b') :
    (toArguments a b).Mirrored ρ (toArguments (a.rename ρ) b') :=
  ⟨rfl, rfl, h⟩

theorem rename_literal (l : Literal) : l.value.rename ρ = l.value := by
  cases l <;> rfl

theorem valueOf_rename (sc : Scope) (name : Text) :
    valueOf (sc.rename ρ) name = (valueOf sc name).rename ρ := by
  rw [valueOf, valueOf, Scope.get?_rename]
  cases sc.get? name with
  | some v => rfl
  | none =>
    dsimp only [Option.map_none]
    split <;> rfl

theorem binaryOf_rename (op : Binary) (v w : Value) :
    binaryOf op (v.rename ρ) (w.rename ρ) = (binaryOf op v w).map (Value.rename ρ) := by
  cases op with
  | add => exact v.add_rename w
  | subtract => exact v.subtract_rename w
  | multiply => exact v.multiply_rename w
  | divide => exact v.divide_rename w
  | floorDivide => exact v.floorDivide_rename w
  | modulo => exact v.modulo_rename w
  | power => exact v.power_rename w

section

variable (inj : Function.Injective ρ)
include inj

theorem related_rename (r : Relation) (v w : Value) :
    related r (v.rename ρ) (w.rename ρ) = related r v w := by
  have hsame := Value.same_rename inj v w
  have horder := Value.order?_rename inj v w
  have hmember := Value.isMember_rename inj v w
  cases r <;> simp only [related, hsame, horder, hmember]

end

theorem mirrors_callValue {e e' : Surroundings} (he : e.Mirrored ρ e') (sc : Scope) (f : Value)
    {a a' : Helper.Arguments} (ha : a.Mirrored ρ a') :
    Mirrors ρ (Value.rename ρ) (callValue e sc f a)
      (callValue e' (sc.rename ρ) (f.rename ρ) a') := by
  cases f with
  | function name =>
    dsimp only [callValue, Value.rename]
    rw [Scope.data_rename]
    cases hfind : Helper.find? name with
    | none => exact .fail _
    | some h => exact he.call h (List.mem_of_find?_eq_some hfind) a a' ha sc.data
  | method v name =>
    dsimp only [callValue, Value.rename]
    rw [ha.values, ha.named]
    cases a
    cases a'
    obtain ⟨_, _, hblock⟩ := ha
    cases hblock with
    | none => exact mirrors_callMethod v name _ _
    | some h => exact .fail _
  | _ => exact .fail _

theorem mirrors_dictOf (entries : List (Value × Value)) :
    Mirrors ρ (Value.rename ρ) (dictOf entries)
      (dictOf (entries.map fun p => (p.1.rename ρ, p.2.rename ρ))) := by
  refine Mirrors.bind (r := List.map (Value.renameAt ρ)) (.mapM entries fun p => ?_) fun es => ?_
  · refine (mirrors_keyOf p.1).bindSame fun k => ?_
    cases k with
    | some k => exact .pure rfl
    | none => exact .fail _
  · refine .pure ?_
    rw [Value.ofList_map_renameAt, Value.rename, Value.renameEntries_eq_map]

theorem mirrors_namedValues (v : Value) :
    Mirrors ρ (List.map (Value.renameAt ρ)) (namedValues v) (namedValues (v.rename ρ)) := by
  refine (Mirrors.look v).bind fun looked => ?_
  cases looked with
  | dict es =>
    simp only [Value.rename, Value.renameEntries_eq_map]
    refine .mapM es fun (k, w) => ?_
    cases k with
    | text t => exact .pure rfl
    | _ => exact .fail _
  | _ => exact .fail _

/-- Up to a bound on its depth, evaluation is the same under other names. -/
structure EvaluatesAlike (ρ : Nat → Nat) (e e' : Surroundings) (n : Nat) : Prop where
  eval : ∀ sc expr, Mirrors ρ (Value.rename ρ) (eval e n sc expr)
    (eval e' n (sc.rename ρ) expr)
  evalOr : ∀ sc expr, Mirrors ρ (Value.rename ρ) (evalOr e n sc expr)
    (evalOr e' n (sc.rename ρ) expr)
  compareAll : ∀ sc v rest, Mirrors ρ (Value.rename ρ) (compareAll e n sc v rest)
    (compareAll e' n (sc.rename ρ) (v.rename ρ) rest)
  evalOperands : ∀ sc a, Mirrors ρ (Evaluated.rename ρ) (evalOperands e n sc a)
    (evalOperands e' n (sc.rename ρ) a)

namespace EvaluatesAlike

variable {e e' : Surroundings} {n : Nat}

theorem zero : EvaluatesAlike ρ e e' 0 where
  eval _ _ := .fail _
  evalOr _ _ := .fail _
  compareAll _ _ _ := .fail _
  evalOperands _ _ := .fail _

variable (h : EvaluatesAlike ρ e e' n)
include h

theorem evalAll (sc : Scope) (items : List Expr) :
    Mirrors ρ (List.map (Value.rename ρ)) (items.mapM (Template.eval e n sc))
      (items.mapM (Template.eval e' n (sc.rename ρ))) :=
  .mapMOver items (h.eval sc)

theorem evalOr_succ (sc : Scope) (expr : Option Expr) :
    Mirrors ρ (Value.rename ρ) (Template.evalOr e (n + 1) sc expr)
      (Template.evalOr e' (n + 1) (sc.rename ρ) expr) := by
  cases expr with
  | none => exact .pure rfl
  | some expr => exact h.eval sc expr

theorem compareAll_succ (inj : Function.Injective ρ) (sc : Scope) (v : Value)
    (rest : List (Relation × Expr)) :
    Mirrors ρ (Value.rename ρ) (Template.compareAll e (n + 1) sc v rest)
      (Template.compareAll e' (n + 1) (sc.rename ρ) (v.rename ρ) rest) := by
  match rest with
  | [] => exact .pure rfl
  | (r, expr) :: rest =>
    refine (h.eval sc expr).bind fun w => ?_
    refine (Mirrors.resolve v).bind fun left => (Mirrors.resolve w).bind fun right => ?_
    refine (Mirrors.ofSame (related_rename inj r left right)).bindSame fun holds => ?_
    split
    next => exact h.compareAll sc w rest
    next => exact .pure rfl

theorem evalNamed (sc : Scope) (named : List (Text × Expr)) :
    Mirrors ρ (List.map (Value.renameAt ρ))
      (named.mapM fun (k, v) => do return (k, ← Template.eval e n sc v))
      (named.mapM fun (k, v) => do return (k, ← Template.eval e' n (sc.rename ρ) v)) :=
  .mapMOver named fun p => (h.eval sc p.2).bind fun _ => .pure rfl

theorem evalOperands_succ (sc : Scope) (a : Operands) :
    Mirrors ρ (Evaluated.rename ρ) (Template.evalOperands e (n + 1) sc a)
      (Template.evalOperands e' (n + 1) (sc.rename ρ) a) := by
  obtain ⟨values, named, rest, options⟩ := a
  refine (h.evalAll sc values).bind fun values => ?_
  refine (h.evalNamed sc named).bind fun named => ?_
  -- What follows the two optional operands stands in each of their branches.
  have hall (further : List Value) (more : List (Text × Value)) : Mirrors ρ (Evaluated.rename ρ)
      (pure ⟨values ++ further, named ++ more⟩)
      (pure ⟨values.map (Value.rename ρ) ++ further.map (Value.rename ρ),
        named.map (Value.renameAt ρ) ++ more.map (Value.renameAt ρ)⟩) :=
    .pure (by simp [Evaluated.rename])
  have hlast (further : List Value) (o : Expr) : Mirrors ρ (Evaluated.rename ρ)
      (do
        let more ← namedValues (← Template.eval e n sc o)
        return ⟨values ++ further, named ++ more⟩)
      (do
        let more ← namedValues (← Template.eval e' n (sc.rename ρ) o)
        return ⟨values.map (Value.rename ρ) ++ further.map (Value.rename ρ),
          named.map (Value.renameAt ρ) ++ more⟩) :=
    (h.eval sc o).bind fun w => (mirrors_namedValues w).bind fun more => hall further more
  cases rest with
  | none =>
    cases options with
    | none => exact hall [] []
    | some o => exact hlast [] o
  | some v =>
    refine (h.eval sc v).bind fun w => (Mirrors.look w).bind fun looked => ?_
    refine (Mirrors.ofExcept (looked.iterate_rename ρ)).bind fun further => ?_
    cases options with
    | none => exact hall further []
    | some o => exact hlast further o

theorem eval_succ (inj : Function.Injective ρ) (he : e.Mirrored ρ e') (sc : Scope) (expr : Expr) :
    Mirrors ρ (Value.rename ρ) (Template.eval e (n + 1) sc expr)
      (Template.eval e' (n + 1) (sc.rename ρ) expr) := by
  cases expr with
  | literal l => exact .pure (rename_literal l).symm
  | name name => exact .pure (valueOf_rename sc name)
  | list items => exact (h.evalAll sc items).bind fun vs => .pure (by simp)
  | tuple items => exact (h.evalAll sc items).bind fun vs => .pure (by simp)
  | dict entries =>
    refine Mirrors.bind (.mapMOver entries fun p => ?_) mirrors_dictOf
    exact (h.eval sc p.1).bind fun k => (h.eval sc p.2).bind fun v => .pure rfl
  | field v name => exact (h.eval sc v).bind fun v => mirrors_fieldOf v name
  | item v i => exact (h.eval sc v).bind fun v => (h.eval sc i).bind fun i => mirrors_itemOf v i
  | slice v start stop step =>
    refine (h.eval sc v).bind fun v => (h.evalOr sc start).bind fun start => ?_
    refine (h.evalOr sc stop).bind fun stop => (h.evalOr sc step).bind fun step => ?_
    exact mirrors_partOf v start stop step
  | call f arguments =>
    refine (h.eval sc f).bind fun f => (h.evalOperands sc arguments).bind fun a => ?_
    exact mirrors_callValue he sc f (mirrored_toArguments a .none)
  | filter v name arguments =>
    refine (h.evalOr sc v).bind fun v => (h.evalOperands sc arguments).bind fun a => ?_
    rw [Scope.data_rename]
    exact mirrors_applyFilter he sc.data name ⟨rfl, rfl, .none⟩
  | test v name arguments =>
    refine (h.eval sc v).bind fun v => (h.evalOperands sc arguments).bind fun a => ?_
    dsimp only [Evaluated.rename]
    rw [List.isEmpty_map]
    refine .failIf ?_ _ _
    refine (Mirrors.resolve v).bind fun v => (Mirrors.mapM _ Mirrors.resolve).bind fun vs => ?_
    exact (Mirrors.ofSame (applyTest_rename inj name v vs)).bindSame fun b => .pure rfl
  | unary op v =>
    cases op with
    | not => exact (h.eval sc v).bind fun v => (Mirrors.truthy v).bindSame fun b => .pure rfl
    | negate => exact (h.eval sc v).bind fun v => .ofExcept v.negate_rename
    | plus => exact (h.eval sc v).bind fun v => .ofExcept v.plus_rename
  | binary op l r =>
    refine (h.eval sc l).bind fun l => (h.eval sc r).bind fun r => ?_
    refine (Mirrors.look l).bind fun l => (Mirrors.look r).bind fun r => ?_
    exact .ofExcept (binaryOf_rename op l r)
  | both l r =>
    refine (h.eval sc l).bind fun l => (Mirrors.truthy l).bindSame fun holds => ?_
    split
    next => exact h.eval sc r
    next => exact .pure rfl
  | either l r =>
    refine (h.eval sc l).bind fun l => (Mirrors.truthy l).bindSame fun holds => ?_
    split
    next => exact .pure rfl
    next => exact h.eval sc r
  | compare v rest => exact (h.eval sc v).bind fun v => h.compareAll sc v rest
  | concat items =>
    refine Mirrors.bind (r := List.map (Value.rename ρ)) (.mapMOver items fun i => ?_)
      fun vs => .pure ?_
    · exact (h.eval sc i).bind fun v => .resolve v
    · rw [he.autoescape]
      exact joined_rename e.autoescape (.text []) vs
  | conditional c v other =>
    refine (h.eval sc c).bind fun c => (Mirrors.truthy c).bindSame fun holds => ?_
    split
    next => exact h.eval sc v
    next =>
      cases other with
      | some w => exact h.eval sc w
      | none => exact .pure rfl

end EvaluatesAlike

theorem evaluatesAlike (inj : Function.Injective ρ) {e e' : Surroundings} (he : e.Mirrored ρ e')
    (n : Nat) : EvaluatesAlike ρ e e' n := by
  induction n with
  | zero => exact .zero
  | succ n ih =>
    exact ⟨ih.eval_succ inj he, ih.evalOr_succ, ih.compareAll_succ inj, ih.evalOperands_succ⟩

end Template

end Stencil
