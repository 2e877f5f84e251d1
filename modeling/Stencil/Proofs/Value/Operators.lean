import Mathlib.Logic.Function.Basic
import Stencil.Proofs.Value.Renaming

namespace Stencil.Value

variable {ρ : Nat → Nat}

mutual

theorem same_rename (inj : Function.Injective ρ) :
    (v w : Value) → (v.rename ρ).same (w.rename ρ) = v.same w
  | null, w | undefined, w => by cases w <;> rfl
  | bool _, w | int _, w | float _, w => by simp only [rename, same, numberSame, number?_rename]
  | text _, w | markup _, w => by simp only [rename, same, asText?_rename]
  | list vs, w => by
    cases w with
    | list ws => exact sameItems_rename inj vs ws
    | _ => rfl
  | tuple vs, w => by
    cases w with
    | tuple ws => exact sameItems_rename inj vs ws
    | _ => rfl
  | view vs, w => by
    cases w with
    | view ws => exact sameItems_rename inj vs ws
    | _ => rfl
  | dict es, w => by
    cases w with
    | dict fs =>
      simp only [rename, same, sameEntries_rename inj es fs]
      simp only [renameEntries_eq_map, List.length_map]
    | _ => rfl
  | object es, w => by
    cases w with
    | object fs =>
      simp only [rename, same, sameEntries_rename inj es fs]
      simp only [renameEntries_eq_map, List.length_map]
    | _ => rfl
  | ref m, w => by
    cases w with
    | ref n => simp only [rename, same, beq_eq_beq, inj.eq_iff]
    | _ => rfl
  | function _, w => by cases w <;> rfl
  | method v _, w => by
    cases w with
    | method w _ => simp only [rename, same, same_rename inj v w]
    | _ => rfl

theorem sameItems_rename (inj : Function.Injective ρ) : (vs ws : List Value) →
    sameItems (renameItems ρ vs) (renameItems ρ ws) = sameItems vs ws
  | [], [] | [], _ :: _ | _ :: _, [] => rfl
  | v :: vs, w :: ws => by
    rw [renameItems, renameItems, sameItems, sameItems, same_rename inj v w,
      sameItems_rename inj vs ws]

theorem sameEntries_rename (inj : Function.Injective ρ) : (es fs : List (Key × Value)) →
    sameEntries (renameEntries ρ es) (renameEntries ρ fs) = sameEntries es fs
  | [], _ => rfl
  | (k, v) :: es, fs => by
    rw [renameEntries, sameEntries, sameEntries, sameEntries_rename inj es fs,
      renameEntries_eq_map, get?_map_renameAt]
    cases Entries.get? k fs with
    | none => rfl
    | some w => simp only [Option.map_some, same_rename inj v w]

end

section

variable (inj : Function.Injective ρ)
include inj

theorem any_same_rename (v : Value) (ws : List Value) :
    (ws.map (rename ρ)).any (v.rename ρ).same = ws.any v.same := by
  rw [List.any_map]
  exact List.any_congr rfl fun w => same_rename inj v w

theorem isMember_rename (v w : Value) : (v.rename ρ).isMember (w.rename ρ) = v.isMember w := by
  cases w with
  | list ws | tuple ws | view ws =>
    simp only [rename, isMember, renameItems_eq_map, any_same_rename inj]
  | dict es =>
    simp only [rename, isMember, asKey?_rename, renameEntries_eq_map, get?_map_renameAt,
      Option.isSome_map]
    cases v.asKey? with
    | some k => rfl
    | none => cases v <;> rfl
  | _ => simp [isMember]

end

theorem refused_rename {α : Type} (v w : Value) :
    (refused (v.rename ρ) (w.rename ρ) : Except Fault α) = refused v w := by
  cases v <;> cases w <;> rfl

theorem map_rename_refused (v w : Value) : (refused v w).map (rename ρ) = refused v w := by
  cases v <;> cases w <;> rfl

theorem map_rename_number (x : Except Fault Number) :
    (x.map Number.toValue).map (rename ρ) = x.map Number.toValue := by
  cases x <;> simp [Except.map]

theorem negate_rename (v : Value) : (v.rename ρ).negate = v.negate.map (rename ρ) := by
  rw [negate, negate, number?_rename, refused_rename]
  split
  next => simp [Except.map]
  next => simp [Except.map]
  next => rw [map_rename_refused]

theorem plus_rename (v : Value) : (v.rename ρ).plus = v.plus.map (rename ρ) := by
  rw [plus, plus, number?_rename, refused_rename]
  split
  next => simp [Except.map]
  next => rw [map_rename_refused]

theorem add_rename (v w : Value) : (v.rename ρ).add (w.rename ρ) = (v.add w).map (rename ρ) := by
  unfold add
  rw [number?_rename, number?_rename]
  split
  next => rw [map_rename_number]
  next => cases v <;> cases w <;> simp [refused, Except.map]

theorem subtract_rename (v w : Value) :
    (v.rename ρ).subtract (w.rename ρ) = (v.subtract w).map (rename ρ) := by
  rw [subtract, subtract, number?_rename, number?_rename, refused_rename]
  split
  next => rw [map_rename_number]
  next => rw [map_rename_refused]

theorem divide_rename (v w : Value) :
    (v.rename ρ).divide (w.rename ρ) = (v.divide w).map (rename ρ) := by
  rw [divide, divide, number?_rename, number?_rename, refused_rename]
  split
  next => rw [map_rename_number]
  next => rw [map_rename_refused]

theorem floorDivide_rename (v w : Value) :
    (v.rename ρ).floorDivide (w.rename ρ) = (v.floorDivide w).map (rename ρ) := by
  rw [floorDivide, floorDivide, number?_rename, number?_rename, refused_rename]
  split
  next x y _ _ => cases x.floorDivide y <;> simp [Except.map]
  next => rw [map_rename_refused]

theorem modulo_rename (v w : Value) :
    (v.rename ρ).modulo (w.rename ρ) = (v.modulo w).map (rename ρ) := by
  rw [modulo, modulo, number?_rename, number?_rename, refused_rename, asText?_rename]
  split
  next x y _ _ => cases x.floorDivide y <;> simp [Except.map]
  next =>
    split
    next => rfl
    next => rw [map_rename_refused]

theorem power_rename (v w : Value) :
    (v.rename ρ).power (w.rename ρ) = (v.power w).map (rename ρ) := by
  rw [power, power, number?_rename, number?_rename, refused_rename]
  split
  next => rw [map_rename_number]
  next => rw [map_rename_refused]

theorem repeated_rename (n : Int) (v : Value) :
    (v.rename ρ).repeated n = (v.repeated n).map (rename ρ) := by
  cases v <;> simp [repeated, List.map_flatten]

theorem count?_rename (v : Value) : (v.rename ρ).count? = v.count? := by
  cases v <;> simp [count?]

theorem multiply_rename (v w : Value) :
    (v.rename ρ).multiply (w.rename ρ) = (v.multiply w).map (rename ρ) := by
  simp only [multiply, number?_rename, refused_rename, count?_rename, repeated_rename]
  split
  next => rw [map_rename_number]
  next =>
    have hbind (m : Option Int) (u : Value) : (m.bind fun n => (u.repeated n).map (rename ρ)) =
        (m.bind fun n => u.repeated n).map (rename ρ) := by cases m <;> rfl
    rw [hbind, hbind]
    cases w.count?.bind fun n => v.repeated n with
    | some r => rfl
    | none =>
      cases v.count?.bind fun n => w.repeated n with
      | some r => rfl
      | none => exact (map_rename_refused v w).symm

mutual

theorem order?_rename (inj : Function.Injective ρ) :
    (v w : Value) → (v.rename ρ).order? (w.rename ρ) = v.order? w
  | list vs, w => by
    cases w with
    | list ws => exact orderItems?_rename inj vs ws
    | _ => rfl
  | tuple vs, w => by
    cases w with
    | tuple ws => exact orderItems?_rename inj vs ws
    | _ => rfl
  | null, w | undefined, w | bool _, w | int _, w | float _, w | text _, w | markup _, w | view _, w
  | dict _, w | object _, w | ref _, w | function _, w | method _ _, w => by
    cases w <;> rfl

theorem orderItems?_rename (inj : Function.Injective ρ) : (vs ws : List Value) →
    orderItems? (renameItems ρ vs) (renameItems ρ ws) = orderItems? vs ws
  | [], [] | [], _ :: _ | _ :: _, [] => rfl
  | v :: vs, w :: ws => by
    rw [renameItems, renameItems, orderItems?, orderItems?, same_rename inj v w,
      orderItems?_rename inj vs ws, order?_rename inj v w]

end

end Stencil.Value
