import Stencil.Proofs.Engine.Mirror
import Stencil.Template.Access

namespace Stencil.Template

open Act (Mirrors)

variable {ρ : Nat → Nat}

theorem methodsOf_rename (v : Value) : methodsOf (v.rename ρ) = methodsOf v := by
  cases v <;> simp [methodsOf]

theorem methodOf?_rename (given looked : Value) (name : Text) :
    methodOf? (given.rename ρ) (looked.rename ρ) name =
      (methodOf? given looked name).map (Value.rename ρ) := by
  rw [methodOf?, methodOf?, methodsOf_rename]
  split <;> simp

theorem index?_rename (v : Value) : index? (v.rename ρ) = index? v := by
  cases v <;> simp [index?]

theorem getD_undefined_rename (o : Option Value) :
    (o.map (Value.rename ρ)).getD .undefined = (o.getD .undefined).rename ρ :=
  Value.getD_map_rename ρ o .undefined

theorem mirrors_fieldOf (v : Value) (name : Text) :
    Mirrors ρ (Value.rename ρ) (fieldOf v name) (fieldOf (v.rename ρ) name) := by
  refine (Mirrors.look v).bind fun looked => ?_
  have hmethod := methodOf?_rename (ρ := ρ) v looked name
  have hentry : (((looked.rename ρ).entries?.getD []).get? (.text name)).getD .undefined =
      (((looked.entries?.getD []).get? (.text name)).getD .undefined).rename ρ := by
    rw [Value.entries?_rename, ← getD_undefined_rename, ← Value.get?_map_renameAt]
    cases looked.entries? <;> rfl
  cases looked with
  | undefined => exact .fail _
  | object es =>
    refine .pure ?_
    rw [← getD_undefined_rename, ← Value.get?_map_renameAt, ← Value.renameEntries_eq_map]
  | _ =>
    dsimp only [Value.rename] at hmethod hentry ⊢
    rw [hmethod]
    cases methodOf? v _ name with
    | some m => exact .pure rfl
    | none => exact .pure hentry

theorem entryOf?_rename (looked index : Value) :
    entryOf? (looked.rename ρ) (index.rename ρ) = (entryOf? looked index).map (Value.rename ρ) := by
  have hkey := index.asKey?_rename ρ
  have hindex := index?_rename (ρ := ρ) index
  cases looked with
  | dict es =>
    have hentries (k : Key) : Entries.get? k (Value.renameEntries ρ es) =
        (Entries.get? k es).map (Value.rename ρ) := by
      rw [Value.renameEntries_eq_map, Value.get?_map_renameAt]
    cases index with
    | undefined => rfl
    | _ =>
      dsimp only [entryOf?, Value.rename] at hkey ⊢
      rw [hkey, Option.map_bind]
      exact congrArg _ (funext hentries)
  | list vs | tuple vs =>
    simp only [Value.rename, Value.renameItems_eq_map, entryOf?, hindex, List.length_map,
      List.getElem?_map, Option.map_bind, Function.comp_def]
  | text t | markup t =>
    simp only [Value.rename, entryOf?, hindex, Option.map_bind, Option.map_map, Function.comp_def]
  | _ => rfl

theorem sliceOf_map {α β : Type} (f : α → β) (xs : List α) (start stop : Option Int) (step : Int) :
    sliceOf (xs.map f) start stop step = (sliceOf xs start stop step).map f := by
  simp [sliceOf, List.map_filterMap]

theorem mirrors_sliceBound (v : Value) : Mirrors ρ id (sliceBound v) (sliceBound (v.rename ρ)) := by
  have hindex := index?_rename (ρ := ρ) v
  cases v with
  | null => exact .pure rfl
  | _ =>
    dsimp only [sliceBound, Value.rename] at hindex ⊢
    rw [hindex]
    split
    next => exact .pure rfl
    next => exact .fail _

theorem mirrors_itemOf (v index : Value) :
    Mirrors ρ (Value.rename ρ) (itemOf v index) (itemOf (v.rename ρ) (index.rename ρ)) := by
  refine (Mirrors.look v).bind fun looked => ?_
  have hentry := entryOf?_rename (ρ := ρ) looked index
  have hmethod (name : Text) := methodOf?_rename (ρ := ρ) v looked name
  cases looked with
  | undefined => exact .fail _
  | object es =>
    dsimp only [Value.rename] at hentry ⊢
    rw [hentry, Value.asText?_rename]
    cases entryOf? (.object es) index with
    | some item => exact .pure rfl
    | none =>
      cases index.asText? with
      | none => exact .pure rfl
      | some name =>
        refine .pure ?_
        rw [← getD_undefined_rename, ← Value.get?_map_renameAt, ← Value.renameEntries_eq_map]
  | _ =>
    dsimp only [Value.rename] at hentry hmethod ⊢
    rw [hentry, Value.asText?_rename]
    cases entryOf? _ index with
    | some item => exact .pure rfl
    | none =>
      cases index.asText? with
      | none => exact .pure rfl
      | some name =>
        refine .pure ?_
        rw [hmethod, getD_undefined_rename]

theorem mirrors_partOf (v start stop step : Value) :
    Mirrors ρ (Value.rename ρ) (partOf v start stop step)
      (partOf (v.rename ρ) (start.rename ρ) (stop.rename ρ) (step.rename ρ)) := by
  refine (Mirrors.look v).bind fun looked => ?_
  refine (mirrors_sliceBound start).bindSame fun start => ?_
  refine (mirrors_sliceBound stop).bindSame fun stop => ?_
  refine (mirrors_sliceBound step).bindSame fun step => ?_
  cases looked with
  | list vs | tuple vs => exact .failIf (.pure (by simp [sliceOf_map])) _ _
  | text t | markup t => exact .failIf (.pure (by simp)) _ _
  | _ => exact .failIf (.fail _) _ _

theorem mirrors_keyOf (v : Value) : Mirrors ρ id (keyOf v) (keyOf (v.rename ρ)) := by
  have hkey := v.asKey?_rename ρ
  cases v with
  | undefined => exact .pure rfl
  | _ =>
    dsimp only [keyOf, Value.rename] at hkey ⊢
    rw [hkey]
    split
    next => exact .pure rfl
    next => exact .fail _

/-- A pair of a list as an entry. -/
theorem mirrors_pair (v : Value) :
    Mirrors ρ (Value.renameAt ρ)
      (do match ← Act.ofExcept (← Act.look v).iterate with
        | [k, w] =>
          match k.asKey? with
          | some k => return (k, w)
          | none => Act.fail .wrongType
        | _ => Act.fail .badValue)
      (do match ← Act.ofExcept (← Act.look (v.rename ρ)).iterate with
        | [k, w] =>
          match k.asKey? with
          | some k => return (k, w)
          | none => Act.fail .wrongType
        | _ => Act.fail .badValue) := by
  refine (Mirrors.look v).bind fun looked => ?_
  refine (Mirrors.ofExcept (looked.iterate_rename ρ)).bind fun items => ?_
  match items with
  | [] | [_] | _ :: _ :: _ :: _ => exact .fail _
  | [k, w] =>
    simp only [List.map_cons, List.map_nil, Value.asKey?_rename]
    split
    next => exact .pure rfl
    next => exact .fail _

theorem mirrors_updates (v : Value) :
    Mirrors ρ (List.map (Value.renameAt ρ)) (updates v) (updates (v.rename ρ)) := by
  refine (Mirrors.look v).bind fun looked => ?_
  have hitems := looked.iterate_rename ρ
  cases looked with
  | dict es => exact .pure (Value.renameEntries_eq_map ρ es)
  | _ => exact (Mirrors.ofExcept hitems).bind fun items => .mapM items mirrors_pair

theorem mirrors_change (v : Value) (c : Cell) :
    Mirrors ρ id (change v c) (change (v.rename ρ) (c.rename ρ)) := by
  cases v with
  | ref cell =>
    intro rest around s s' he
    exact ⟨rfl, he.store.write cell c, he.inside, he.inside'⟩
  | _ => exact .pure rfl

/-- Bringing a mapping up to date with entries. -/
theorem mirrors_update (v : Value) (es more : Entries) (named : List (Text × Value)) :
    Mirrors ρ (Value.rename ρ)
      (do
        let shared ← (more ++ named.map fun p => (Key.text p.1, p.2)).mapM fun p => do
          return (p.1, ← Act.share p.2)
        change v (.dict (Entries.update es shared))
        return .null)
      (do
        let shared ← (more.map (Value.renameAt ρ) ++
            (named.map (Value.renameAt ρ)).map fun p => (Key.text p.1, p.2)).mapM fun p => do
          return (p.1, ← Act.share p.2)
        change (v.rename ρ) (.dict (Entries.update (es.map (Value.renameAt ρ)) shared))
        return .null) := by
  have hall : more.map (Value.renameAt ρ) ++
      (named.map (Value.renameAt ρ)).map (fun p => (Key.text p.1, p.2)) =
      (more ++ named.map fun p => (Key.text p.1, p.2)).map (Value.renameAt ρ) := by
    simp [Function.comp_def]
  have hcell (shared : Entries) :
      Cell.dict (Entries.update (es.map (Value.renameAt ρ)) (shared.map (Value.renameAt ρ))) =
        (Cell.dict (Entries.update es shared)).rename ρ := by
    rw [Value.update_map_renameAt, Cell.rename]
  have hshare (p : Key × Value) :
      Mirrors ρ (Value.renameAt ρ) (do return (p.1, ← Act.share p.2))
        (do return (p.1, ← Act.share (p.2.rename ρ))) :=
    (Mirrors.share p.2).bind fun _ => .pure rfl
  rw [hall]
  refine (Mirrors.mapM _ hshare).bind fun shared => ?_
  rw [hcell]
  exact (mirrors_change v _).bindSame fun _ => .pure rfl

/-- The entry of a mapping, or a value in its place. -/
theorem mirrors_getOr (es : Entries) (k default : Value) :
    Mirrors ρ (Value.rename ρ)
      (do return ((← keyOf k).bind fun k => Entries.get? k es).getD default)
      (do return ((← keyOf (k.rename ρ)).bind fun k =>
        Entries.get? k (es.map (Value.renameAt ρ))).getD (default.rename ρ)) := by
  refine (mirrors_keyOf k).bindSame fun k => .pure ?_
  cases k with
  | none => rfl
  | some k =>
    rw [Option.bind_some, Option.bind_some, Value.get?_map_renameAt, Value.getD_map_rename]

theorem mirrors_callMethod (v : Value) (name : Text) (values : List Value)
    (named : List (Text × Value)) :
    Mirrors ρ (Value.rename ρ) (callMethod v name values named)
      (callMethod (v.rename ρ) name (values.map (Value.rename ρ))
        (named.map (Value.renameAt ρ))) := by
  refine (Mirrors.look v).bind fun looked => ?_
  cases looked with
  | dict es =>
    simp only [Value.rename, Value.renameEntries_eq_map, List.isEmpty_map]
    split
    next =>
      match values with
      | [] => exact mirrors_update v es [] named
      | [w] => exact (mirrors_updates w).bind fun more => mirrors_update v es more named
      | _ :: _ :: _ =>
        exact (Mirrors.fail (r := List.map (Value.renameAt ρ)) _).bind fun more =>
          mirrors_update v es more named
    next =>
      split
      next => exact .fail _
      next =>
        split
        next => exact .pure (by simp [Function.comp_def])
        next =>
          split
          next => exact .pure (by simp [Function.comp_def])
          next =>
            split
            next => exact .pure (by simp [Function.comp_def])
            next =>
              split
              next =>
                match values with
                | [] | _ :: _ :: _ :: _ => exact .fail _
                | [k] => exact mirrors_getOr es k .null
                | [k, default] => exact mirrors_getOr es k default
              next => exact .fail _
  | list vs =>
    simp only [Value.rename, Value.renameItems_eq_map, List.isEmpty_map]
    split
    next =>
      match values with
      | [] | _ :: _ :: _ => exact .fail _
      | [w] =>
        refine (Mirrors.share w).bind fun w => ?_
        have hcell : (Cell.list (vs ++ [w])).rename ρ =
            .list (vs.map (Value.rename ρ) ++ [w.rename ρ]) := by
          simp [Cell.rename]
        rw [← hcell]
        exact (mirrors_change v _).bindSame fun _ => .pure rfl
    next => exact .fail _
  | _ => exact .fail _

end Stencil.Template
