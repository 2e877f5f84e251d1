import Stencil.Proofs.Template.Access
import Stencil.Proofs.Template.Renderer
import Stencil.Template.Filter

namespace Stencil.Template

open Act (Mirrors)

variable {ρ : Nat → Nat}

theorem written_rename (autoescape : Bool) (v : Value) :
    written autoescape (v.rename ρ) = written autoescape v := by
  have hdisplay := v.display_rename ρ
  unfold written
  split
  next =>
    cases v with
    | markup t => rfl
    | _ => exact congrArg Text.escapeMarkup hdisplay
  next => exact hdisplay

theorem isMarkup_rename (v : Value) : isMarkup (v.rename ρ) = isMarkup v := by
  cases v <;> rfl

theorem joined_rename (autoescape : Bool) (sep : Value) (vs : List Value) :
    joined autoescape (sep.rename ρ) (vs.map (Value.rename ρ)) =
      (joined autoescape sep vs).rename ρ := by
  unfold joined
  simp only [List.any_map, List.map_map, Function.comp_def, isMarkup_rename, written_rename,
    Value.display_rename]
  split <;> rfl

theorem mirrors_partAt (path : List Text) (v : Value) :
    Mirrors ρ (Value.rename ρ) (partAt path v) (partAt path (v.rename ρ)) := by
  induction path generalizing v with
  | nil => exact .pure rfl
  | cons name path ih =>
    rw [partAt, partAt, List.foldlM_cons, List.foldlM_cons]
    refine Mirrors.bind (r := Value.rename ρ) ?_ ih
    split
    next n _ => exact mirrors_itemOf v (.int n)
    next => exact mirrors_itemOf v (.text name)

theorem mirrors_joined (autoescape : Bool) (sep : Value) (items : List Value) :
    Mirrors ρ (Value.rename ρ)
      (do
        let sep ← Act.resolve sep
        return joined autoescape sep (← items.mapM Act.resolve))
      (do
        let sep ← Act.resolve (sep.rename ρ)
        return joined autoescape sep (← (items.map (Value.rename ρ)).mapM Act.resolve)) := by
  refine (Mirrors.resolve sep).bind fun sep => ?_
  refine (Mirrors.mapM items Mirrors.resolve).bind fun vs => ?_
  exact .pure (joined_rename autoescape sep vs)

theorem mirrors_joinFilter (autoescape : Bool) {b b' : Helper.Bound} (h : b.Mirrored ρ b') :
    Mirrors ρ (Value.rename ρ) (joinFilter autoescape b) (joinFilter autoescape b') := by
  unfold joinFilter
  simp only [h.get]
  refine (Mirrors.look _).bind fun looked => ?_
  refine (Mirrors.ofExcept (looked.iterate_rename ρ)).bind fun items => ?_
  have hdisplay := (b.get "attribute").display_rename ρ
  cases hattribute : b.get "attribute" with
  | null => exact mirrors_joined autoescape _ items
  | int n =>
    refine (Mirrors.mapM items fun v => mirrors_itemOf v (.int n)).bind fun items => ?_
    exact mirrors_joined autoescape _ items
  | _ =>
    rw [hattribute] at hdisplay
    dsimp only [Value.rename] at hdisplay ⊢
    rw [hdisplay]
    refine (Mirrors.mapM items fun v => mirrors_partAt _ v).bind fun items => ?_
    exact mirrors_joined autoescape _ items

theorem lengthOf_rename (v : Value) : lengthOf (v.rename ρ) = lengthOf v := by
  have hitems : (v.rename ρ).iterate.map List.length = v.iterate.map List.length := by
    rw [v.iterate_rename]
    cases v.iterate <;> simp [Except.map]
  cases v with
  | int n => rfl
  | _ => exact hitems

theorem isPlain_ownSignature (name : Text) : (ownSignature name).IsPlain := by
  refine Helper.isPlain_of_forall ?_
  unfold ownSignature
  split
  next => simp [Helper.required, Helper.optional]
  next => split <;> simp [Helper.required, Helper.optional]

/-- A value, or another one in its place. -/
theorem mirrors_defaultFilter (v default whole : Value) :
    Mirrors ρ (Value.rename ρ)
      (match v with
        | .undefined => return default
        | _ => do
          if (← Act.truthy whole) && !(← Act.truthy v) then return default else return v)
      (match v.rename ρ with
        | .undefined => return default.rename ρ
        | _ => do
          if (← Act.truthy (whole.rename ρ)) && !(← Act.truthy (v.rename ρ)) then
            return default.rename ρ
          else return v.rename ρ) := by
  have hpresent : Mirrors ρ (Value.rename ρ)
      (do if (← Act.truthy whole) && !(← Act.truthy v) then return default else return v)
      (do
        if (← Act.truthy (whole.rename ρ)) && !(← Act.truthy (v.rename ρ)) then
          return default.rename ρ
        else return v.rename ρ) := by
    refine (Mirrors.truthy whole).bindSame fun wanted => ?_
    refine (Mirrors.truthy v).bindSame fun holds => ?_
    split
    next => exact .pure rfl
    next => exact .pure rfl
  cases v with
  | undefined => exact .pure rfl
  | _ => exact hpresent

theorem mirrors_applyFilter {e e' : Surroundings} (he : e.Mirrored ρ e') (data : Value) (name : Text)
    {a a' : Helper.Arguments} (ha : a.Mirrored ρ a') :
    Mirrors ρ (Value.rename ρ) (applyFilter e data name a)
      (applyFilter e' (data.rename ρ) name a') := by
  unfold applyFilter
  rw [he.autoescape]
  split
  next =>
    cases hfind : Helper.find? name with
    | none => exact .fail _
    | some h => exact he.call h (List.mem_of_find?_eq_some hfind) a a' ha data
  next =>
    split
    next =>
      rcases Helper.Signature.bind_mirrored (isPlain_ownSignature name) ha with
        ⟨f, hf, hf'⟩ | ⟨b, b', hb, hb', hmet⟩
      · rw [hf, hf']
        exact .throw f
      · rw [hb, hb']
        show Mirrors ρ (Value.rename ρ) (ite _ _ _) (ite _ _ _)
        simp only [hmet.get]
        split
        next => exact mirrors_joinFilter e.autoescape hmet
        next =>
          split
          next => exact mirrors_defaultFilter _ _ _
          next =>
            refine (Mirrors.look _).bind fun looked => ?_
            split
            next =>
              refine (Mirrors.ofExcept (looked.iterate_rename ρ)).bind fun items => .pure ?_
              rw [List.head?_map, getD_undefined_rename]
            next => exact (Mirrors.ofSame (lengthOf_rename looked)).bindSame fun n => .pure rfl
    next => exact .fail _

theorem againstOne_map_rename {f g : Value → Except Fault Bool}
    (h : ∀ w, g (w.rename ρ) = f w) (values : List Value) :
    againstOne (values.map (Value.rename ρ)) g = againstOne values f := by
  match values with
  | [] | _ :: _ :: _ => rfl
  | [w] => exact h w

theorem alone_map_rename (values : List Value) (b : Bool) :
    alone (values.map (Value.rename ρ)) b = alone values b := by
  simp [alone]

theorem isIterable_rename (v : Value) : isIterable (v.rename ρ) = isIterable v := by
  rw [isIterable, isIterable, v.iterate_rename]
  cases v.iterate <;> rfl

theorem applyTest_rename (inj : Function.Injective ρ) (name : Text) (v : Value)
    (values : List Value) :
    applyTest name (v.rename ρ) (values.map (Value.rename ρ)) = applyTest name v values := by
  have hmember := againstOne_map_rename (fun w => Value.isMember_rename inj v w) values
  have hsame (holds : Bool → Bool) :
      againstOne (values.map (Value.rename ρ)) (fun w => .ok (holds ((v.rename ρ).same w))) =
        againstOne values fun w => .ok (holds (v.same w)) :=
    againstOne_map_rename (fun w => by rw [Value.same_rename inj]) values
  have hequal := hsame fun b => b
  have hunequal := hsame not
  unfold applyTest
  simp only [alone_map_rename, Value.asText?_rename, Value.number?_rename, Value.entries?_rename,
    Value.items?_rename, Option.isSome_map, isIterable_rename, hmember, hequal,
    hunequal]
  cases v <;> rfl

end Stencil.Template
