import Mathlib.Data.List.Chain
import Stencil.Proofs.Text.Lines

namespace Stencil.Text

variable {s t word : Text} {b c d : Char}

/-- The longest parts without white space. -/
def fields (t : Text) : List Text :=
  (t.splitOnP isBlankChar).filter fun part => !part.isEmpty

theorem fields_append_cons (hb : isBlankChar b = true) (s t : Text) :
    fields (s ++ b :: t) = fields s ++ fields t := by
  rw [fields, List.splitOnP_append_cons s t hb, List.filter_append, fields, fields]

theorem fields_of_isVisible (h : IsVisible word) (hne : word ≠ []) : fields word = [word] := by
  rw [fields, List.splitOnP_eq_singleton h]
  simp [hne]

theorem fields_cons (hb : isBlankChar b = true) (t : Text) : fields (b :: t) = fields t :=
  fields_append_cons hb [] t

theorem fields_cons_cons (hc : isBlankChar c = false) (hb : isBlankChar b = true) (t : Text) :
    fields (c :: b :: t) = [c] :: fields t := by
  have hword : fields [c] = [[c]] :=
    fields_of_isVisible (by simpa [IsVisible] using hc) (List.cons_ne_nil c [])
  exact (fields_append_cons hb [c] t).trans (by rw [hword]; rfl)

/-- A character in front of a field belongs to it. -/
theorem exists_fields_cons (hc : isBlankChar c = false) (hd : isBlankChar d = false) (t : Text) :
    ∃ word words, fields (d :: t) = word :: words ∧
      fields (c :: d :: t) = (c :: word) :: words := by
  obtain ⟨part, parts, hparts⟩ := List.exists_cons_of_ne_nil (List.splitOnP_ne_nil isBlankChar t)
  have hsplit : (d :: t).splitOnP isBlankChar = (d :: part) :: parts := by
    rw [List.splitOnP_cons_eq_if_modifyHead, if_neg (by simp [hd]), hparts]
    rfl
  refine ⟨d :: part, parts.filter fun part => !part.isEmpty, ?_, ?_⟩
  · simp [fields, hsplit]
  · simp [fields, List.splitOnP_cons_eq_if_modifyHead, hc, hsplit]

theorem fields_ne_nil (hc : c ∈ t) (hvisible : isBlankChar c = false) : fields t ≠ [] := by
  obtain ⟨part, hpart, hmem⟩ := exists_mem_splitOnP hc hvisible
  have hne : part ≠ [] := List.ne_nil_of_mem hmem
  exact List.ne_nil_of_mem (List.mem_filter.mpr ⟨hpart, by simpa using hne⟩)

theorem fields_append_left (hs : isBlank s = true) (t : Text) : fields (s ++ t) = fields t := by
  induction s with
  | nil => rfl
  | cons b s ih =>
    obtain ⟨hb, hs⟩ := Bool.and_eq_true_iff.mp ((List.all_cons ..).symm.trans hs)
    rw [List.cons_append, fields_cons hb, ih hs]

theorem fields_append_right (hs : isBlank s = true) (t : Text) : fields (t ++ s) = fields t := by
  cases s with
  | nil => rw [List.append_nil]
  | cons b s =>
    obtain ⟨hb, hs⟩ := Bool.and_eq_true_iff.mp ((List.all_cons ..).symm.trans hs)
    have hnone : fields s = [] := by
      have hleft := fields_append_left hs []
      rwa [List.append_nil] at hleft
    rw [fields_append_cons hb, hnone, List.append_nil]

/-- What is stripped from a text is white space at its two ends. -/
theorem exists_strip (t : Text) :
    ∃ left right, t = left ++ (strip t ++ right) ∧ isBlank left = true ∧ isBlank right = true := by
  have hall (s : Text) : isBlank (s.takeWhile isBlankChar) = true :=
    List.all_eq_true.mpr fun c hc => List.mem_takeWhile_imp hc
  have hback :
      isBlank ((t.dropWhile isBlankChar).reverse.takeWhile isBlankChar).reverse = true := by
    rw [isBlank, List.all_reverse]
    exact hall _
  refine ⟨_, _, ?_, hall t, hback⟩
  rw [strip, trim, trimEnd, ← List.reverse_append, List.takeWhile_append_dropWhile,
    List.reverse_reverse, List.takeWhile_append_dropWhile]

theorem fields_strip (t : Text) : fields (strip t) = fields t := by
  obtain ⟨left, right, ht, hleft, hright⟩ := exists_strip t
  calc fields (strip t)
      = fields (strip t ++ right) := (fields_append_right hright (strip t)).symm
    _ = fields (left ++ (strip t ++ right)) := (fields_append_left hleft _).symm
    _ = fields t := by rw [← ht]

section

variable {p : Char → Bool}

theorem eq_false_of_mem_head?_dropWhile (h : c ∈ (t.dropWhile p).head?) : p c = false := by
  have hfirst := List.head?_dropWhile_not p t
  rw [h] at hfirst
  exact hfirst

/-- What is cut at its end begins as before. -/
theorem trimEnd_prefix (p : Char → Bool) (t : Text) : trimEnd p t <+: t := by
  have hreverse := List.reverse_prefix.mpr (List.dropWhile_suffix (l := t.reverse) p)
  rwa [List.reverse_reverse] at hreverse

end

theorem not_blank_of_mem_head?_strip (h : c ∈ (strip t).head?) : isBlankChar c = false := by
  obtain ⟨blanks, hblanks⟩ := trimEnd_prefix isBlankChar (t.dropWhile isBlankChar)
  refine eq_false_of_mem_head?_dropWhile (t := t) ?_
  rw [← hblanks, List.head?_append]
  exact Option.or_eq_some_iff.mpr (Or.inl h)

theorem not_blank_of_mem_getLast?_strip (h : c ∈ (strip t).getLast?) : isBlankChar c = false := by
  rw [strip, trim, trimEnd, List.getLast?_reverse] at h
  exact eq_false_of_mem_head?_dropWhile h

theorem squeezeFrom_eq_join : (t : Text) → (∀ c ∈ t.getLast?, isBlankChar c = false) →
    squeezeFrom true t = join " " (fields t)
  | [], _ => rfl
  | [c], h => by
    have hc : isBlankChar c = false := h c rfl
    rw [fields_of_isVisible (by simpa [IsVisible] using hc) (List.cons_ne_nil c [])]
    simp [squeezeFrom, hc, join]
  | c :: d :: t, h => by
    have hlast : ∀ c ∈ (d :: t).getLast?, isBlankChar c = false := by
      rwa [List.getLast?_cons_cons] at h
    have ih := squeezeFrom_eq_join (d :: t) hlast
    cases hc : isBlankChar c with
    | true => rw [squeezeFrom, if_pos hc, if_pos rfl, ih, fields_cons hc]
    | false =>
      rw [squeezeFrom, if_neg (by simp [hc])]
      cases hd : isBlankChar d with
      | true =>
        rw [squeezeFrom, if_pos hd, if_pos rfl, fields_cons hd] at ih
        rw [squeezeFrom, if_pos hd, if_neg Bool.false_ne_true, ih, fields_cons_cons hc hd]
        -- the blank is not the last character, so that another field comes behind it
        have hne : d :: t ≠ [] := List.cons_ne_nil d t
        have hmore := hlast _ (List.getLast?_eq_getLast_of_ne_nil hne)
        have hfields : fields (d :: t) ≠ [] := fields_ne_nil (List.getLast_mem hne) hmore
        rw [fields_cons hd] at hfields
        obtain ⟨word, words, hwords⟩ := List.exists_cons_of_ne_nil hfields
        rw [hwords, join_cons_cons]
        rfl
      | false =>
        obtain ⟨word, words, hfields, hmore⟩ := exists_fields_cons hc hd t
        rw [squeezeFrom, if_neg (by simp [hd])] at ih ⊢
        rw [ih, hfields, hmore]
        cases words <;> simp [join]

theorem squeeze_strip (t : Text) : squeeze (strip t) = join " " (fields t) := by
  have hjoin := squeezeFrom_eq_join (strip t) fun c hc => not_blank_of_mem_getLast?_strip hc
  rw [fields_strip] at hjoin
  rw [← hjoin, squeeze]
  cases hs : strip t with
  | nil => rfl
  | cons c s =>
    have hc : isBlankChar c = false := not_blank_of_mem_head?_strip (t := t) (by rw [hs]; rfl)
    rw [squeezeFrom, squeezeFrom, if_neg (by simp [hc]), if_neg (by simp [hc])]

/-- Nothing but single spaces stands between the characters that can be seen, and none at the
ends. -/
structure IsOneLine (t : Text) : Prop where
  eq_space : ∀ c ∈ t, isBlankChar c = true → c = ' '
  single : t.IsChain fun c d => ¬(isBlankChar c = true ∧ isBlankChar d = true)
  first : ∀ c ∈ t.head?, isBlankChar c = false
  last : ∀ c ∈ t.getLast?, isBlankChar c = false

theorem IsOneLine.append (hs : IsOneLine s) (ht : IsOneLine t) (hsne : s ≠ []) (htne : t ≠ []) :
    IsOneLine (s ++ ' ' :: t) where
  eq_space c hc hblank := by
    rcases List.mem_append.mp hc with hc | hc
    · exact hs.eq_space c hc hblank
    · rcases List.mem_cons.mp hc with rfl | hc
      · rfl
      · exact ht.eq_space c hc hblank
  single := by
    refine List.isChain_append.mpr ⟨hs.single, List.isChain_cons.mpr ⟨?_, ht.single⟩, ?_⟩
    · exact fun d hd hblank => absurd hblank.2 (by simp [ht.first d hd])
    · exact fun c hc _ _ hblank => absurd hblank.1 (by simp [hs.last c hc])
  first c hc := by
    rw [List.head?_append_of_ne_nil s hsne] at hc
    exact hs.first c hc
  last c hc := by
    rw [List.getLast?_append_cons, List.getLast?_cons_of_ne_nil htne] at hc
    exact ht.last c hc

end Stencil.Text
