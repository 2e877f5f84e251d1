import Stencil.Proofs.Template.Evaluation
import Stencil.Template.Run

namespace Stencil

open Act (Mirrors)

namespace Template

variable {ρ : Nat → Nat}

theorem findPartial_rename {e e' : Surroundings} (he : e.Mirrored ρ e') (names : List Value) :
    findPartial e' (names.map (Value.rename ρ)) = findPartial e names := by
  simp only [findPartial, he.partials, List.findSome?_map, Function.comp_def, Value.asText?_rename]

theorem mirrors_sourceNames (v : Value) :
    Mirrors ρ (Prod.map (List.map (Value.rename ρ)) id) (sourceNames v)
      (sourceNames (v.rename ρ)) := by
  refine (Mirrors.look v).bind fun looked => ?_
  have hmany : Mirrors ρ (Prod.map (List.map (Value.rename ρ)) (id : Bool → Bool))
      (do if looked.truthy then return (← Act.ofExcept looked.iterate, true) else return ([], true))
      (do
        if (looked.rename ρ).truthy then return (← Act.ofExcept (looked.rename ρ).iterate, true)
        else return ([], true)) := by
    rw [Value.truthy_rename]
    split
    next => exact (Mirrors.ofExcept (looked.iterate_rename ρ)).bind fun items => .pure rfl
    next => exact .pure rfl
  cases looked with
  | text t | markup t => exact .pure rfl
  | undefined => exact .fail _
  | _ => exact hmany

theorem loopInfo_rename (items : List Value) (i : Nat) :
    loopInfo (items.map (Value.rename ρ)) i = (loopInfo items i).rename ρ := by
  have hitem (j : Nat) : ((items.map (Value.rename ρ))[j]?).getD .undefined =
      ((items[j]?).getD .undefined).rename ρ := by
    rw [List.getElem?_map, getD_undefined_rename]
  simp only [loopInfo, List.length_map, hitem]
  by_cases hi : i = 0 <;> simp [hi]

/-- The parameters of a block with the values that they have met. -/
def renameMet (ρ : Nat → Nat) (p : Text × Option Expr × Option Value) :
    Text × Option Expr × Option Value :=
  (p.1, p.2.1, p.2.2.map (Value.rename ρ))

theorem mirrors_meetParameters (body : List Stmt) (parameters : List (Text × Option Expr))
    (items : List Value) :
    Mirrors ρ (Prod.map (List.map (renameMet ρ)) (List.map (Value.renameAt ρ)))
      (meetParameters body parameters items)
      (meetParameters body parameters (items.map (Value.rename ρ))) := by
  have hmet : parameters.zipIdx.map (fun p => (p.1.1, p.1.2, (items.map (Value.rename ρ))[p.2]?)) =
      (parameters.zipIdx.map fun p => (p.1.1, p.1.2, items[p.2]?)).map (renameMet ρ) := by
    simp [renameMet, Function.comp_def]
  unfold meetParameters
  simp only [← List.map_drop, List.isEmpty_map]
  refine .failIf (.pure (Prod.ext hmet ?_)) _ _
  simp only [Prod.map_snd, List.map_append]
  refine congrArg₂ (· ++ ·) (congrArg₂ (· ++ ·) ?_ ?_) ?_
  all_goals split
  all_goals simp

theorem mirrors_passing {e e' : Surroundings} {n : Nat} (alike : EvaluatesAlike ρ e e' n) (sc : Scope)
    (target : Pattern) (condition : Option Expr) (item : Value) :
    Mirrors ρ (Option.map (List.map (Value.renameAt ρ))) (passing e n sc target condition item)
      (passing e' n (sc.rename ρ) target condition (item.rename ρ)) := by
  refine (target.mirrors_bind item).bind fun names => ?_
  cases condition with
  | none => exact .pure rfl
  | some c =>
    refine (alike.eval (sc.enter ⟨names, [], false⟩) c).bind fun v => ?_
    refine (Mirrors.truthy v).bindSame fun holds => ?_
    split
    next => exact .pure rfl
    next => exact .pure rfl

theorem mirrors_loopItems {e e' : Surroundings} {n : Nat} (alike : EvaluatesAlike ρ e e' n) (sc : Scope)
    (target : Pattern) (condition : Option Expr) (hasInfo : Bool) (items : List Value) :
    Mirrors ρ (List.map (Value.rename ρ)) (loopItems e n sc target condition hasInfo items)
      (loopItems e' n (sc.rename ρ) target condition hasInfo
        (items.map (Value.rename ρ))) := by
  unfold loopItems
  split
  next =>
    refine .filterM items fun item => ?_
    exact (mirrors_passing alike sc target condition item).bind fun names => .pure (by simp)
  next => exact .pure rfl

theorem mirrors_loopTexts {e e' : Surroundings} {n : Nat} (alike : EvaluatesAlike ρ e e' n)
    (sc : Scope) (target : Pattern) (condition : Option Expr) (hasInfo : Bool)
    {inside inside' : Scope → Act Text}
    (hinside : ∀ sc, Mirrors ρ id (inside sc) (inside' (sc.rename ρ))) (items : List Value) :
    Mirrors ρ id (loopTexts e n sc target condition hasInfo inside items)
      (loopTexts e' n (sc.rename ρ) target condition hasInfo inside'
        (items.map (Value.rename ρ))) := by
  rw [loopTexts, loopTexts, List.zipIdx_map]
  refine .filterMapMSame _ fun (item, i) => ?_
  refine (mirrors_passing alike sc target condition item).bind fun names => ?_
  cases names with
  | none => exact .pure rfl
  | some names =>
    have hown : (if hasInfo then [("loop".toList, loopInfo (items.map (Value.rename ρ)) i)] else []) =
        (if hasInfo then [("loop".toList, loopInfo items i)] else []).map (Value.renameAt ρ) := by
      rw [loopInfo_rename]
      split <;> rfl
    dsimp only [Option.map_some, Prod.map]
    rw [id, hown, ← List.map_append]
    exact (hinside (sc.enter ⟨names ++ _, [], true⟩)).bindSame fun t => .pure rfl

theorem mirrors_blockValue {e e' : Surroundings} (he : e.Mirrored ρ e') {n : Nat}
    (alike : EvaluatesAlike ρ e e' n) (sc : Scope) (t : Text) (filter : Option Expr) :
    Mirrors ρ (Value.rename ρ) (blockValue e n sc t filter)
      (blockValue e' n (sc.rename ρ) t filter) := by
  unfold blockValue
  rw [he.autoescape]
  -- The text itself refers to no cells, so a filter that is filled with it stays the same.
  cases filter with
  | none => exact .pure (rename_literal _).symm
  | some f =>
    refine (alike.eval sc _).bind fun v => (Mirrors.resolve v).bind fun w => ?_
    rw [Value.display_rename]
    exact .pure (by split <;> rfl)

theorem mirrors_callText {e e' : Surroundings} (he : e.Mirrored ρ e') {n : Nat}
    (alike : EvaluatesAlike ρ e e' n) (sc : Scope) (call : Expr) {b b' : Block}
    (hblock : ∀ items, Mirrors ρ id (b items) (b' (items.map (Value.rename ρ)))) :
    Mirrors ρ id (callText e n sc call b) (callText e' n (sc.rename ρ) call b') := by
  cases call with
  | call f arguments =>
    refine (alike.eval sc f).bind fun f => (alike.evalOperands sc arguments).bind fun a => ?_
    refine (mirrors_callValue he sc f (mirrored_toArguments a (.some hblock))).bind fun v => ?_
    rw [Value.asText?_rename]
    split
    next => exact .pure rfl
    next => exact .fail _
  | _ => exact .fail _

theorem mirrors_partialBody {e e' : Surroundings} (he : e.Mirrored ρ e') {n : Nat}
    (alike : EvaluatesAlike ρ e e' n) (sc : Scope) (source : Expr) (ignoreMissing : Bool) :
    Mirrors ρ id (partialBody e n sc source ignoreMissing)
      (partialBody e' n (sc.rename ρ) source ignoreMissing) := by
  refine (alike.eval sc source).bind fun v => (mirrors_sourceNames v).bind fun (names, several) => ?_
  dsimp only [Prod.map]
  rw [findPartial_rename he]
  cases findPartial e names with
  | none =>
    cases ignoreMissing with
    | true => exact .pure rfl
    | false => exact .fail _
  | some text =>
    dsimp only
    cases compile text with
    | error f => exact .fail f
    | ok body => exact .pure rfl

/-- What execution leaves, under other names. -/
def renameBehind (ρ : Nat → Nat) (p : Text × Scope) : Text × Scope :=
  (p.1, p.2.rename ρ)

/-- Up to a bound on its depth, execution is the same under other names. -/
structure ExecutesAlike (ρ : Nat → Nat) (e e' : Surroundings) (n : Nat) : Prop where
  exec : ∀ sc body, Mirrors ρ (renameBehind ρ) (exec e n sc body)
    (exec e' n (sc.rename ρ) body)
  execStmt : ∀ sc s, Mirrors ρ (renameBehind ρ) (execStmt e n sc s)
    (execStmt e' n (sc.rename ρ) s)
  execBranches : ∀ sc branches other, Mirrors ρ (renameBehind ρ) (execBranches e n sc branches other)
    (execBranches e' n (sc.rename ρ) branches other)
  execBlock : ∀ sc parameters body items, Mirrors ρ id (execBlock e n sc parameters body items)
    (execBlock e' n (sc.rename ρ) parameters body (items.map (Value.rename ρ)))

namespace ExecutesAlike

variable {e e' : Surroundings} {n : Nat}

theorem zero : ExecutesAlike ρ e e' 0 where
  exec _ _ := .fail _
  execStmt _ _ := .fail _
  execBranches _ _ _ := .fail _
  execBlock _ _ _ _ := .fail _

variable (h : ExecutesAlike ρ e e' n)
include h

theorem exec_succ (sc : Scope) (body : List Stmt) :
    Mirrors ρ (renameBehind ρ) (Template.exec e (n + 1) sc body)
      (Template.exec e' (n + 1) (sc.rename ρ) body) := by
  refine Mirrors.bind (r := Prod.map id (Scope.rename ρ)) ?_ fun p => .pure rfl
  exact .foldlMOver body ([], sc) fun p s => (h.execStmt p.2 s).bind fun q => .pure rfl

theorem execBranches_succ (alike : EvaluatesAlike ρ e e' n) (sc : Scope)
    (branches : List (Expr × List Stmt)) (other : List Stmt) :
    Mirrors ρ (renameBehind ρ) (Template.execBranches e (n + 1) sc branches other)
      (Template.execBranches e' (n + 1) (sc.rename ρ) branches other) := by
  match branches with
  | [] => exact h.exec sc other
  | (c, body) :: branches =>
    refine (alike.eval sc c).bind fun v => (Mirrors.truthy v).bindSame fun holds => ?_
    split
    next => exact h.exec sc body
    next => exact h.execBranches sc branches other

theorem execBlock_succ (alike : EvaluatesAlike ρ e e' n) (sc : Scope)
    (parameters : List (Text × Option Expr)) (body : List Stmt) (items : List Value) :
    Mirrors ρ id (Template.execBlock e (n + 1) sc parameters body items)
      (Template.execBlock e' (n + 1) (sc.rename ρ) parameters body
        (items.map (Value.rename ρ))) := by
  refine (mirrors_meetParameters body parameters items).bind fun (met, extra) => ?_
  refine Mirrors.bind (r := List.map (Value.renameAt ρ)) ?_ fun names => ?_
  · refine .foldlM met extra fun names (name, default, given) => ?_
    have hshare (v : Value) : Mirrors ρ (List.map (Value.renameAt ρ))
        (do return (name, ← Act.share v) :: names)
        (do return (name, ← Act.share (v.rename ρ)) :: names.map (Value.renameAt ρ)) :=
      (Mirrors.share v).bind fun v => .pure rfl
    cases given with
    | some v => exact hshare v
    | none =>
      cases default with
      | some d => exact (alike.eval (sc.enter ⟨names, [], false⟩) d).bind hshare
      | none => exact hshare .undefined
  · exact (h.exec (sc.enter ⟨names, [], false⟩) body).map fun _ => rfl

/-- The text that statements give in a scope. -/
theorem text (sc : Scope) (body : List Stmt) :
    Mirrors ρ id (Prod.fst <$> Template.exec e n sc body)
      (Prod.fst <$> Template.exec e' n (sc.rename ρ) body) :=
  (h.exec sc body).map fun _ => rfl

theorem execStmt_succ (he : e.Mirrored ρ e') (alike : EvaluatesAlike ρ e e' n) (sc : Scope) (s : Stmt) :
    Mirrors ρ (renameBehind ρ) (Template.execStmt e (n + 1) sc s)
      (Template.execStmt e' (n + 1) (sc.rename ρ) s) := by
  have hassign (names : Bindings) : Mirrors ρ (renameBehind ρ) (pure ([], sc.assign names))
      (pure ([], (sc.rename ρ).assign (names.map (Value.renameAt ρ)))) :=
    .pure (congrArg (([] : Text), ·) (Scope.assign_rename sc names).symm)
  cases s with
  | data t => exact .pure rfl
  | output expr =>
    refine (alike.eval sc expr).bind fun v => (Mirrors.resolve v).bind fun v => .pure ?_
    rw [he.autoescape]
    exact congrArg (·, sc.rename ρ) (written_rename e.autoescape v)
  | conditional branches other => exact h.execBranches sc branches other
  | loop target items condition body other =>
    refine (alike.eval sc items).bind fun v => (Mirrors.look v).bind fun looked => ?_
    refine (Mirrors.ofExcept (looked.iterate_rename ρ)).bind fun items => ?_
    refine (mirrors_loopItems alike sc target condition _ items).bind fun items => ?_
    refine (mirrors_loopTexts alike sc target _ _ (h.text · body) items).bindSame fun texts => ?_
    split
    next => exact (h.text (sc.enter ⟨[], [], false⟩) other).bindSame fun t => .pure rfl
    next => exact .pure rfl
  | assign target expr =>
    exact (alike.eval sc expr).bind fun v => (target.mirrors_bind v).bind hassign
  | assignBlock target filter body =>
    refine (h.text (sc.enter ⟨[], [], false⟩) body).bindSame fun t => ?_
    refine (mirrors_blockValue he alike sc t filter).bind fun v => ?_
    exact (target.mirrors_bind v).bind hassign
  | callBlock parameters call body =>
    refine (mirrors_callText he alike sc call ?_).bindSame fun t => .pure rfl
    exact h.execBlock sc parameters body
  | insert source ignoreMissing withContext =>
    refine (mirrors_partialBody he alike sc source ignoreMissing).bindSame fun found => ?_
    cases found with
    | none => exact .pure rfl
    | some body =>
      cases withContext with
      | true =>
        have hinner := h.text { given := sc.visible } body
        rw [Scope.rename, ← Scope.visible_rename] at hinner
        exact hinner.bindSame fun t => .pure rfl
      | false => exact (h.text {} body).bindSame fun t => .pure rfl

end ExecutesAlike

section

variable (inj : Function.Injective ρ) {e e' : Surroundings} (he : e.Mirrored ρ e')
include inj he

theorem executesAlike (n : Nat) : ExecutesAlike ρ e e' n := by
  induction n with
  | zero => exact .zero
  | succ n ih =>
    have alike := evaluatesAlike inj he n
    exact ⟨ih.exec_succ, ih.execStmt_succ he alike, ih.execBranches_succ alike,
      ih.execBlock_succ alike⟩

theorem mirrors_render (source : Text) (given : Bindings) :
    Mirrors ρ id (render e source given) (render e' source (given.map (Value.renameAt ρ))) := by
  unfold render
  cases compile source with
  | error f => exact .fail f
  | ok body =>
    have hbody := (executesAlike inj he nestingLimit).exec { given := given } body
    exact hbody.bind fun p => .pure rfl

end

theorem isBlindOn_render (partials : List (Text × Text)) (source : Text) :
    Renderer.IsBlindOn (fun _ => render) partials source :=
  fun inj _ _ hx _ _ given => mirrors_render inj hx source given

end Template

end Stencil
