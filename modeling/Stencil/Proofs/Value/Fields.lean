import Stencil.Language.Formatting
import Stencil.Value.Display

namespace Stencil

namespace Value

variable {v w : Value} {t : Text}

/-- The text that a value is, and an empty one for any other value. -/
def ownText (v : Value) : Text :=
  v.asText?.getD []

@[simp]
theorem ownText_text (t : Text) : (text t).ownText = t := rfl

@[simp]
theorem ownText_markup (t : Text) : (markup t).ownText = t := rfl

theorem eq_of_asText? (h : v.asText? = some t) : v = .text t ∨ v = .markup t := by
  cases v with
  | text u =>
    cases h
    exact Or.inl rfl
  | markup u =>
    cases h
    exact Or.inr rfl
  | _ => cases h

theorem ownText_of_asText? (h : v.asText? = some t) : v.ownText = t := by
  rw [ownText, h, Option.getD_some]

theorem asText?_of_ownText_ne (h : v.ownText ≠ []) : v.asText? = some v.ownText := by
  cases htext : v.asText? with
  | none =>
    rw [ownText, htext] at h
    exact absurd rfl h
  | some t => rw [ownText_of_asText? htext]

theorem truthy_of_ownText_ne (h : v.ownText ≠ []) : v.truthy = true := by
  cases v with
  | text t | markup t => simpa [truthy] using h
  | _ => exact absurd rfl h

theorem ownText_of_not_truthy (h : v.truthy = false) : v.ownText = [] := by
  cases v with
  | text t | markup t => simpa [truthy] using h
  | _ => rfl

/-- The value is a text or nothing. -/
def IsTextual (v : Value) : Prop :=
  v = .null ∨ v.asText?.isSome = true

instance (v : Value) : Decidable (IsTextual v) :=
  match v with
  | .null => isTrue (Or.inl rfl)
  | .text _ | .markup _ => isTrue (Or.inr rfl)
  | .undefined | .bool _ | .int _ | .float _ | .list _ | .tuple _ | .view _ | .dict _ | .object _
  | .ref _ | .function _ | .method _ _ => isFalse (by simp [IsTextual, asText?])

theorem isTextual_of_asText? (h : v.asText? = some t) : v.IsTextual := by
  rw [IsTextual, h]
  exact Or.inr rfl

theorem IsTextual.truthy_iff (h : v.IsTextual) : v.truthy = true ↔ v.ownText ≠ [] := by
  refine ⟨fun htruthy hnone => ?_, truthy_of_ownText_ne⟩
  rcases h with rfl | htext
  · cases htruthy
  · obtain ⟨t, ht⟩ := Option.isSome_iff_exists.mp htext
    have hempty : t = [] := (ownText_of_asText? ht).symm.trans hnone
    rcases eq_of_asText? ht with rfl | rfl
    · simp [truthy, hempty] at htruthy
    · simp [truthy, hempty] at htruthy

theorem IsTextual.display_of_truthy (h : v.IsTextual) (htruthy : v.truthy = true) :
    v.display = v.ownText := by
  rcases h with rfl | htext
  · cases htruthy
  · obtain ⟨t, ht⟩ := Option.isSome_iff_exists.mp htext
    rcases eq_of_asText? ht with rfl | rfl
    · rfl
    · rfl

theorem IsTextual.orElse (hv : v.IsTextual) (hw : w.IsTextual) : (v.orElse w).IsTextual := by
  unfold Value.orElse
  split
  next => exact hv
  next => exact hw

theorem IsTextual.ownText_orElse (hv : v.IsTextual) (w : Value) :
    (v.orElse w).ownText = if v.ownText = [] then w.ownText else v.ownText := by
  rw [Value.orElse]
  by_cases hempty : v.ownText = []
  · have hfalse : ¬ v.truthy = true := fun h => hv.truthy_iff.mp h hempty
    rw [if_neg hfalse, if_pos hempty]
  · rw [if_pos (truthy_of_ownText_ne hempty), if_neg hempty]

variable {es : Entries} {name : Text}

theorem get_of_missing (h : es.get? (.text name) = none) : (dict es).get name = .null := by
  rw [get, h, Option.getD_none]

theorem isTextual_get (h : ∀ w ∈ es.get? (.text name), w.asText?.isSome = true) :
    ((dict es).get name).IsTextual := by
  cases hget : es.get? (.text name) with
  | none => exact Or.inl (get_of_missing hget)
  | some w =>
    rw [get, hget, Option.getD_some]
    exact Or.inr (h w hget)

theorem ownText_get_of_asText? (h : v.asText? = some t) (name : Text) :
    (v.get name).ownText = [] := by
  rcases eq_of_asText? h with rfl | rfl
  · rfl
  · rfl

end Value

/-- The name of a mapping is that of the first true value among three fields, if that is a text. -/
theorem typeName_dict (es : Entries) :
    typeName (.dict es) =
      ((((Value.dict es).get "ref").orElse ((Value.dict es).get "$ref")).orElse
        ((Value.dict es).get "type")).ownText := by
  cases es with
  | nil => rfl
  | cons e es => rfl

theorem typeName_of_not_truthy {v : Value} (h : v.truthy = false) : typeName v = [] := by
  unfold typeName
  rw [if_neg (by simp [h])]

end Stencil
