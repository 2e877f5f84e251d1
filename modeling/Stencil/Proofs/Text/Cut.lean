import Mathlib.Data.List.Infix
import Stencil.Text.Basic

namespace Stencil.Text

theorem after?_eq_some_iff {start t rest : Text} :
    after? start t = some rest ↔ t = start ++ rest := by
  induction start generalizing t with
  | nil => simp [after?, eq_comm]
  | cons c s ih =>
    cases t with
    | nil => simp [after?]
    | cons d t =>
      by_cases h : c = d
      · simp [after?, h, ih]
      · simp [after?, h, Ne.symm h]

theorem after?_eq_none_iff {start t : Text} : after? start t = none ↔ ¬ start <+: t := by
  rw [Option.eq_none_iff_forall_ne_some]
  simp only [ne_eq, after?_eq_some_iff]
  exact ⟨fun h ⟨rest, hr⟩ => h rest hr.symm, fun h rest hr => h ⟨rest, hr.symm⟩⟩

@[simp]
theorem cut?_mark_append {mark right : Text} (hne : mark ≠ []) :
    cut? mark (mark ++ right) = some ([], right) := by
  obtain ⟨c, mark, rfl⟩ := List.exists_cons_of_ne_nil hne
  have h : after? (c :: mark) (c :: (mark ++ right)) = some right := after?_eq_some_iff.mpr rfl
  simp [cut?, h]

theorem cut?_eq_none_iff {mark t : Text} : cut? mark t = none ↔ ¬ mark <:+: t := by
  induction t with
  | nil => simp [cut?, List.infix_nil]
  | cons c t ih =>
    rw [List.infix_cons_iff, not_or, ← after?_eq_none_iff, ← ih]
    cases h : after? mark (c :: t) with
    | none => simp [cut?, h]
    | some rest => simp [cut?, h]

theorem eq_of_cut? {mark t left right : Text} (h : cut? mark t = some (left, right)) :
    t = left ++ mark ++ right := by
  induction t generalizing left with
  | nil =>
    by_cases hm : mark = []
    · simp only [cut?, hm, if_true, Option.some.injEq, Prod.mk.injEq] at h
      simp [hm, ← h.1, ← h.2]
    · simp [cut?, hm] at h
  | cons c t ih =>
    cases ha : after? mark (c :: t) with
    | some rest =>
      simp only [cut?, ha, Option.some.injEq, Prod.mk.injEq] at h
      rw [after?_eq_some_iff.mp ha, ← h.1, h.2, List.nil_append]
    | none =>
      simp only [cut?, ha, Option.map_eq_some_iff, Prod.exists, Prod.mk.injEq] at h
      obtain ⟨l, r, hcut, rfl, rfl⟩ := h
      rw [ih hcut, List.cons_append, List.cons_append]

/-- The mark does not end anywhere in front of where the first cut has it end. -/
theorem not_infix_of_cut? {mark t left right : Text} (hne : mark ≠ [])
    (h : cut? mark t = some (left, right)) : ¬ mark <:+: left ++ mark.dropLast := by
  have hpos := List.length_pos_iff.mpr hne
  induction t generalizing left with
  | nil => simp [cut?, hne] at h
  | cons c t ih =>
    cases ha : after? mark (c :: t) with
    | some rest =>
      simp only [cut?, ha, Option.some.injEq, Prod.mk.injEq] at h
      intro hi
      have hlen := hi.length_le
      simp only [← h.1, List.nil_append, List.length_dropLast] at hlen
      omega
    | none =>
      simp only [cut?, ha, Option.map_eq_some_iff, Prod.exists, Prod.mk.injEq] at h
      obtain ⟨l, r, hcut, rfl, rfl⟩ := h
      rw [List.cons_append, List.infix_cons_iff, not_or]
      refine ⟨fun hp => after?_eq_none_iff.mp ha (hp.trans ?_), ih hcut⟩
      rw [eq_of_cut? hcut, List.append_assoc, List.cons_prefix_cons]
      exact ⟨rfl, List.prefix_append_right_inj l |>.mpr
        ((List.dropLast_prefix mark).trans (List.prefix_append mark _))⟩

/-- Of two places where a mark stands, the one before which it does not stand comes first. -/
theorem length_le_of_not_infix {mark l r l' r' : Text} (heq : l ++ mark ++ r = l' ++ mark ++ r')
    (h : ¬ mark <:+: l' ++ mark.dropLast) : l'.length ≤ l.length := by
  by_contra hlt
  have hleft : l ++ mark <+: l ++ mark ++ r := List.prefix_append _ _
  have hright : l' ++ mark.dropLast <+: l ++ mark ++ r := by
    rw [heq, List.append_assoc]
    exact List.prefix_append_right_inj l' |>.mpr
      ((List.dropLast_prefix mark).trans (List.prefix_append mark _))
  have hlen : (l ++ mark).length ≤ (l' ++ mark.dropLast).length := by
    simp only [List.length_append, List.length_dropLast]
    omega
  have hp := List.prefix_of_prefix_length_le hleft hright hlen
  exact h ((List.suffix_append l mark).isInfix.trans hp.isInfix)

/-- A cut is where the mark stands first. -/
theorem cut?_eq_some_iff {mark t left right : Text} (hne : mark ≠ []) :
    cut? mark t = some (left, right) ↔
      t = left ++ mark ++ right ∧ ¬ mark <:+: left ++ mark.dropLast := by
  constructor
  · exact fun h => ⟨eq_of_cut? h, not_infix_of_cut? hne h⟩
  · rintro ⟨heq, hfirst⟩
    obtain ⟨⟨l, r⟩, hcut⟩ : ∃ p, cut? mark t = some p := by
      rw [← Option.isSome_iff_exists, Option.isSome_iff_ne_none, Ne, cut?_eq_none_iff, not_not]
      exact ⟨left, right, heq.symm⟩
    have heq' := eq_of_cut? hcut
    have hle := length_le_of_not_infix (heq'.symm.trans heq) hfirst
    have hge := length_le_of_not_infix (heq.symm.trans heq') (not_infix_of_cut? hne hcut)
    have hll : l = left := by
      have h := congrArg (List.take l.length) (heq'.symm.trans heq)
      simpa [List.append_assoc, show l.length = left.length by omega] using h
    subst hll
    have hrr : r = right := List.append_cancel_left (heq'.symm.trans heq)
    rw [hcut, hrr]

theorem cut?_singleton_eq_some_iff {m : Char} {t left right : Text} :
    cut? [m] t = some (left, right) ↔ t = left ++ m :: right ∧ m ∉ left := by
  rw [cut?_eq_some_iff (List.cons_ne_nil m []), List.append_assoc, List.singleton_append,
    List.dropLast_singleton, List.append_nil, List.singleton_infix_iff]

theorem cut?_singleton_eq_none_iff {m : Char} {t : Text} : cut? [m] t = none ↔ m ∉ t := by
  rw [cut?_eq_none_iff, List.singleton_infix_iff]

theorem append_cons_inj {m : Char} {left right left' right' : Text} (h : m ∉ left)
    (h' : m ∉ left') : left ++ m :: right = left' ++ m :: right' ↔ left = left' ∧ right = right' := by
  constructor
  · intro heq
    have hcut : cut? [m] (left ++ m :: right) = some (left, right) :=
      cut?_singleton_eq_some_iff.mpr ⟨rfl, h⟩
    have hcut' := cut?_singleton_eq_some_iff.mpr ⟨heq, h'⟩
    exact Prod.mk.inj (Option.some.inj (hcut.symm.trans hcut'))
  · rintro ⟨rfl, rfl⟩
    rfl

end Stencil.Text
