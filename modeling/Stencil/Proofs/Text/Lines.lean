import Mathlib.Data.List.Infix
import Mathlib.Data.List.TakeWhile
import Stencil.Text.Blank

namespace Stencil.Text

theorem join_cons_cons (sep t u : Text) (ts : List Text) :
    join sep (t :: u :: ts) = t ++ (sep ++ join sep (u :: ts)) := by
  rw [join, List.intercalate_cons_cons, List.append_assoc, join]

theorem mem_join {sep : Text} {ts : List Text} {c : Char} (h : c ∈ join sep ts) :
    c ∈ sep ∨ ∃ t ∈ ts, c ∈ t := by
  induction ts with
  | nil => simp [join] at h
  | cons t ts ih =>
    cases ts with
    | nil => exact Or.inr ⟨t, by simp, by simpa [join] using h⟩
    | cons u ts =>
      rw [join_cons_cons, List.mem_append, List.mem_append] at h
      rcases h with hc | hc | hc
      · exact Or.inr ⟨t, by simp, hc⟩
      · exact Or.inl hc
      · obtain hsep | ⟨v, hv, hcv⟩ := ih hc
        · exact Or.inl hsep
        · exact Or.inr ⟨v, List.mem_cons_of_mem t hv, hcv⟩

section

variable {t part : Text} {c : Char} {p : Char → Bool}

theorem eq_false_of_mem_splitOnP (h : part ∈ t.splitOnP p) (hc : c ∈ part) : p c = false := by
  induction t generalizing part with
  | nil =>
    rw [List.splitOnP_nil, List.mem_singleton] at h
    simp [h] at hc
  | cons d t ih =>
    rw [List.splitOnP_cons_eq_if_modifyHead] at h
    split at h
    next =>
      rcases List.mem_cons.mp h with rfl | h
      · simp at hc
      · exact ih h hc
    next hd =>
      obtain ⟨first, rest, hs⟩ := List.exists_cons_of_ne_nil (List.splitOnP_ne_nil p t)
      rw [hs] at h ih
      rcases List.mem_cons.mp h with rfl | h
      · rcases List.mem_cons.mp hc with rfl | hc
        · simpa using hd
        · exact ih List.mem_cons_self hc
      · exact ih (List.mem_cons_of_mem first h) hc

theorem exists_mem_splitOnP (hc : c ∈ t) (hp : p c = false) : ∃ part ∈ t.splitOnP p, c ∈ part := by
  induction t with
  | nil => simp at hc
  | cons d t ih =>
    rw [List.splitOnP_cons_eq_if_modifyHead]
    obtain ⟨first, rest, hs⟩ := List.exists_cons_of_ne_nil (List.splitOnP_ne_nil p t)
    rcases List.mem_cons.mp hc with rfl | hc
    · rw [if_neg (by simp [hp]), hs]
      exact ⟨c :: first, List.mem_cons_self, List.mem_cons_self⟩
    · obtain ⟨part, hpart, hmem⟩ := ih hc
      split
      next => exact ⟨part, List.mem_cons_of_mem [] hpart, hmem⟩
      next =>
        rw [hs] at hpart ⊢
        rcases List.mem_cons.mp hpart with rfl | hpart
        · exact ⟨d :: part, List.mem_cons_self, List.mem_cons_of_mem d hmem⟩
        · exact ⟨part, List.mem_cons_of_mem _ hpart, hmem⟩

end

theorem lines_append_newline (s t : Text) : lines (s ++ '\n' :: t) = lines s ++ lines t :=
  List.splitOn_append_cons_self s t

theorem lines_of_not_mem {t : Text} (h : '\n' ∉ t) : lines t = [t] :=
  List.splitOn_eq_singleton h

theorem unlines_lines (t : Text) : unlines (lines t) = t :=
  List.intercalate_splitOn '\n'

@[simp]
theorem unlines_singleton (t : Text) : unlines [t] = t := by
  simp [unlines, join, List.intercalate, List.intersperse]

theorem unlines_cons_cons (t u : Text) (ts : List Text) :
    unlines (t :: u :: ts) = t ++ '\n' :: unlines (u :: ts) :=
  join_cons_cons ['\n'] t u ts

/-- The lines of joined texts are the lines of each. -/
theorem lines_unlines {ts : List Text} (hne : ts ≠ []) :
    lines (unlines ts) = ts.flatMap lines := by
  induction ts with
  | nil => exact absurd rfl hne
  | cons t ts ih =>
    cases ts with
    | nil => simp
    | cons u ts =>
      rw [unlines_cons_cons, lines_append_newline, ih (by simp)]
      rfl

theorem infix_unlines_of_mem {ts : List Text} {t : Text} (h : t ∈ ts) : t <:+: unlines ts := by
  induction ts with
  | nil => simp at h
  | cons u ts ih =>
    cases ts with
    | nil =>
      rw [List.mem_singleton.mp h, unlines_singleton]
    | cons v ts =>
      rw [unlines_cons_cons]
      rcases List.mem_cons.mp h with rfl | hmem
      · exact (List.prefix_append t _).isInfix
      · exact (ih hmem).trans ((List.suffix_cons '\n' _).trans (List.suffix_append u _)).isInfix

theorem infix_of_mem_lines {t line : Text} (h : line ∈ lines t) : line <:+: t := by
  have := infix_unlines_of_mem h
  rwa [unlines_lines] at this

/-- A mark that stands in two texts around a separator, without reaching over it, stands in one of
them. -/
theorem infix_append_cons {mark s t : Text} {sep : Char} (hsep : sep ∉ mark)
    (h : mark <:+: s ++ sep :: t) : mark <:+: s ∨ mark <:+: t := by
  obtain ⟨before, after, heq⟩ := h
  rcases List.append_eq_append_iff.mp heq with ⟨gap, hs, -⟩ | ⟨beyond, hs, ht⟩
  · exact Or.inl ⟨before, gap, hs.symm⟩
  · rcases List.append_eq_append_iff.mp hs with ⟨gap, rfl, hmark⟩ | ⟨gap, rfl, hgap⟩
    · cases beyond with
      | nil => exact Or.inl ⟨before, [], by simp [hmark]⟩
      | cons c beyond =>
        obtain ⟨rfl, -⟩ := List.cons.inj ht
        exact absurd (by simp [hmark]) hsep
    · subst hgap
      cases gap with
      | nil =>
        cases mark with
        | nil => exact Or.inl (List.nil_infix)
        | cons c mark =>
          obtain ⟨rfl, -⟩ := List.cons.inj ht
          exact absurd List.mem_cons_self hsep
      | cons c gap =>
        obtain ⟨-, rfl⟩ := List.cons.inj ht
        exact Or.inr ⟨gap, after, rfl⟩

/-- A mark without a line break that stands in joined lines stands in one of them. -/
theorem exists_infix_of_unlines {mark : Text} {ts : List Text} (hmark : '\n' ∉ mark)
    (hne : mark ≠ []) (h : mark <:+: unlines ts) : ∃ t ∈ ts, mark <:+: t := by
  induction ts with
  | nil => exact absurd (List.infix_nil.mp h) hne
  | cons t ts ih =>
    cases ts with
    | nil => exact ⟨t, List.mem_cons_self, unlines_singleton t ▸ h⟩
    | cons u ts =>
      rw [unlines_cons_cons] at h
      rcases infix_append_cons hmark h with ht | hrest
      · exact ⟨t, List.mem_cons_self, ht⟩
      · obtain ⟨v, hv, hmv⟩ := ih hrest
        exact ⟨v, List.mem_cons_of_mem t hv, hmv⟩

theorem mem_unlines {ts : List Text} {c : Char} (h : c ∈ unlines ts) :
    c = '\n' ∨ ∃ t ∈ ts, c ∈ t :=
  (mem_join h).imp_left List.mem_singleton.mp

/-- A text with something to see has a line with something to see. -/
theorem exists_line_of_not_blank {t : Text} {c : Char} (hc : c ∈ t) (hb : ¬ isBlankChar c) :
    ∃ line ∈ lines t, c ∈ line := by
  rw [← unlines_lines t] at hc
  refine (mem_unlines hc).resolve_left ?_
  rintro rfl
  exact hb (by decide)

theorem trim_of_forall {p : Char → Bool} {t : Text} (h : ∀ c ∈ t, p c = false) : trim p t = t := by
  have hdrop : ∀ s : Text, (∀ c ∈ s, p c = false) → s.dropWhile p = s := by
    intro s hs
    cases s with
    | nil => rfl
    | cons c s => simp [hs c (by simp)]
  have hback : ∀ c ∈ t.reverse, p c = false := fun c hc => h c (List.mem_reverse.mp hc)
  rw [trim, hdrop t h, trimEnd, hdrop t.reverse hback, List.reverse_reverse]

theorem trim_subset (p : Char → Bool) (t : Text) : trim p t ⊆ t := by
  intro c hc
  rw [trim, trimEnd, List.mem_reverse] at hc
  have hback := (List.dropWhile_sublist p).subset hc
  exact (List.dropWhile_sublist p).subset (List.mem_reverse.mp hback)

theorem mem_trim {p : Char → Bool} {t : Text} {c : Char} (hc : c ∈ t) (hp : p c = false) :
    c ∈ trim p t := by
  have hdrop : ∀ s : Text, c ∈ s → c ∈ s.dropWhile p := by
    intro s hs
    rw [← List.takeWhile_append_dropWhile (p := p) (l := s), List.mem_append] at hs
    refine hs.resolve_left fun htaken => ?_
    simp [List.mem_takeWhile_imp htaken] at hp
  rw [trim, trimEnd, List.mem_reverse]
  exact hdrop _ (List.mem_reverse.mpr (hdrop t hc))

theorem exists_mem_trim {p : Char → Bool} {t : Text} (hne : trim p t ≠ []) :
    ∃ c ∈ trim p t, p c = false := by
  rw [trim, trimEnd] at hne ⊢
  have hback : (t.dropWhile p).reverse.dropWhile p ≠ [] := by
    simpa only [ne_eq, List.reverse_eq_nil_iff] using hne
  exact ⟨_, List.mem_reverse.mpr (List.head_mem hback), List.head_dropWhile_not p hback⟩

/-- Holds no white space. -/
def IsVisible (t : Text) : Prop :=
  ∀ c ∈ t, isBlankChar c = false

instance (t : Text) : Decidable (IsVisible t) :=
  List.decidableBAll (fun c => isBlankChar c = false) t

section

variable {s t : Text} {c : Char}

theorem isVisible_append : IsVisible (s ++ t) ↔ IsVisible s ∧ IsVisible t :=
  List.forall_mem_append

theorem isVisible_cons : IsVisible (c :: t) ↔ isBlankChar c = false ∧ IsVisible t :=
  List.forall_mem_cons

end

theorem strip_of_forall {t : Text} (h : ∀ c ∈ t, isBlankChar c = false) : strip t = t :=
  trim_of_forall h

/-- White space is taken only from behind the last character that can be seen. -/
theorem strip_append_cons {s : Text} {c : Char} (hs : IsVisible s) (hc : isBlankChar c = false)
    (t : Text) : strip (s ++ c :: t) = s ++ c :: stripEnd t := by
  have hstart : (s ++ c :: t).dropWhile isBlankChar = s ++ c :: t := by
    cases s with
    | nil => rw [List.nil_append, List.dropWhile_cons_of_neg (by simp [hc])]
    | cons d s =>
      have hd := (isVisible_cons.mp hs).1
      rw [List.cons_append, List.dropWhile_cons_of_neg (by simp [hd])]
  have hend : (t.reverse ++ c :: s.reverse).dropWhile isBlankChar =
      t.reverse.dropWhile isBlankChar ++ c :: s.reverse := by
    rw [List.dropWhile_append]
    split
    next hnil =>
      rw [List.isEmpty_iff.mp hnil, List.dropWhile_cons_of_neg (by simp [hc]), List.nil_append]
    next => rfl
  rw [strip, trim, hstart, trimEnd, List.reverse_append, List.reverse_cons, List.append_assoc,
    List.singleton_append, hend]
  simp [stripEnd, trimEnd]

theorem strip_of_isBlank {t : Text} (h : isBlank t = true) : strip t = [] := by
  have hdrop : t.dropWhile isBlankChar = [] :=
    List.dropWhile_eq_nil_iff.mpr (List.all_eq_true.mp h)
  rw [strip, trim, hdrop]
  rfl

end Stencil.Text
