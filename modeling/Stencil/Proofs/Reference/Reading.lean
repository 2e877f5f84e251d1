import Stencil.Proofs.Reference.Expression
import Stencil.Proofs.Text.Cut

namespace Stencil.Reference

open Text (IsVisible isVisible_append strip_of_forall)

section

variable {s t u v outer inner : Text}

theorem argumentsFrom_of_comma_notMem {depth : Int} (current : Text) (h : ',' ∉ t) :
    argumentsFrom depth current t = [current ++ t] := by
  induction t generalizing depth current with
  | nil => simp [argumentsFrom]
  | cons c t ih =>
    rw [List.mem_cons, not_or] at h
    rw [argumentsFrom, if_neg (by simp [Ne.symm h.1]), ih _ h.2]
    simp

/-- Joined texts are cut apart again, and what stands behind them goes to the last. -/
theorem argumentsFrom_join {front : List Text} {last : Text} (hfront : ∀ t ∈ front, Passes 0 t)
    (hlast : Passes 0 last) (hv : ',' ∉ v) :
    argumentsFrom 0 [] (Text.join "," (front ++ [last]) ++ v) = front ++ [last ++ v] := by
  induction front with
  | nil =>
    have hjoin : Text.join "," [last] = last := by simp [Text.join]
    rw [List.nil_append, hjoin, hlast, List.nil_append, argumentsFrom_of_comma_notMem last hv]
    rfl
  | cons t front ih =>
    have hrest := ih fun u hu => hfront u (List.mem_cons_of_mem t hu)
    have hcomma : ∀ rest, argumentsFrom 0 t (',' :: rest) = t :: argumentsFrom 0 [] rest := by
      intro rest
      rw [argumentsFrom, if_pos (by simp)]
    obtain ⟨u, us, husplit⟩ := List.exists_cons_of_ne_nil
      (List.append_ne_nil_of_right_ne_nil front (List.cons_ne_nil last []))
    rw [List.cons_append, husplit, Text.join_cons_cons, ← husplit, List.append_assoc,
      hfront t (by simp), List.nil_append]
    exact (hcomma _).trans (congrArg (t :: ·) hrest)

theorem splitArguments_eq (h : ∀ argument ∈ argumentsFrom 0 [] t, IsVisible argument ∧ argument ≠ []) :
    splitArguments t = argumentsFrom 0 [] t := by
  have hstrip : (argumentsFrom 0 [] t).map Text.strip = argumentsFrom 0 [] t := by
    conv_rhs => rw [← List.map_id (argumentsFrom 0 [] t)]
    exact List.map_congr_left fun argument harg => strip_of_forall (h argument harg).1
  rw [splitArguments, hstrip, List.filter_eq_self]
  intro argument harg
  simp [(h argument harg).2]

theorem names_eq (t : Text) : names t =
    match Text.cut? "<" (element t) with
    | none => if (element t).isEmpty then [] else [element t]
    | some (outer, inner) => (if (Text.strip outer).isEmpty then [] else [Text.strip outer]) ++
        (splitArguments (argumentText inner)).flatMap names := by
  rw [names]
  split
  next h => rw [h]
  next outer inner h =>
    rw [h]
    simp only [List.flatMap_subtype, List.unattach_attach]

theorem names_congr (h : element s = element t) : names s = names t := by
  rw [names_eq, names_eq, h]

/-- The text itself, unless it is empty. -/
def unlessEmpty (t : Text) : List Text :=
  if t.isEmpty then [] else [t]

theorem unlessEmpty_of_ne_nil (h : t ≠ []) : unlessEmpty t = [t] := by
  rw [unlessEmpty, if_neg]
  simpa using h

theorem names_of_plain (h : '<' ∉ element t) : names t = unlessEmpty (element t) := by
  have hcut : Text.cut? "<" (element t) = none := Text.cut?_singleton_eq_none_iff.mpr h
  rw [names_eq, hcut]
  rfl

theorem names_of_applied (h : element t = outer ++ '<' :: inner) (houter : '<' ∉ outer) :
    names t =
      unlessEmpty (Text.strip outer) ++ (splitArguments (argumentText inner)).flatMap names := by
  have hcut : Text.cut? "<" (element t) = some (outer, inner) :=
    Text.cut?_singleton_eq_some_iff.mpr ⟨h, houter⟩
  rw [names_eq, hcut]
  rfl

theorem names_of_notMem (hmark : '<' ∉ element t) (hne : element t ≠ []) :
    names t = [element t] := by
  rw [names_of_plain hmark, unlessEmpty_of_ne_nil hne]

theorem names_of_name {n : TypeName} (h : element t = n.text ++ '<' :: inner) :
    names t = n.text :: (splitArguments (argumentText inner)).flatMap names := by
  have hstrip : Text.strip n.text = n.text := strip_of_forall n.visible
  rw [names_of_applied h (n.notMem rfl), hstrip, unlessEmpty_of_ne_nil n.text_ne,
    List.singleton_append]

theorem element_brackets (h : IsVisible t) : element (t ++ ['[', ']']) = t := by
  have hvisible : IsVisible (t ++ ['[', ']']) := isVisible_append.mpr ⟨h, by decide⟩
  have hends : Text.endsWith "[]" (t ++ ['[', ']']) = true :=
    List.isSuffixOf_iff_suffix.mpr (List.suffix_append t _)
  rw [element, strip_of_forall hvisible, if_pos hends]
  simp [strip_of_forall h]

theorem element_of_not_suffix (h : IsVisible t) (hends : ¬ ['[', ']'] <:+ t) : element t = t := by
  have hfalse : ¬ Text.endsWith "[]" t = true := fun he =>
    hends (List.isSuffixOf_iff_suffix.mp he)
  rw [element, strip_of_forall h, if_neg hfalse]

theorem not_suffix_of_getLast {c : Char} (h : c ≠ ']') : ¬ ['[', ']'] <:+ t ++ [c] := by
  rintro ⟨front, heq⟩
  have hlast := congrArg List.getLast? heq
  simp at hlast
  exact h hlast.symm

end

namespace TypeExpr

variable {e : TypeExpr} {n : TypeName} {first : TypeExpr} {rest : List TypeExpr} {t u v : Text}

theorem element_text (h : e.isArray = false) : element e.text = e.text := by
  refine element_of_not_suffix e.isVisible_text ?_
  cases e with
  | name n =>
    intro hends
    have hmem : ']' ∈ n.text := hends.subset (by simp)
    exact n.notMem rfl hmem
  | generic n first rest =>
    rw [text_generic, ← List.cons_append, ← List.append_assoc]
    exact not_suffix_of_getLast (by decide)
  | array e => simp [isArray] at h

/-- What stands behind the arguments is read with the last of them. -/
theorem splitArguments_join (front : List TypeExpr) (last : TypeExpr) (hv : ',' ∉ v)
    (hvisible : IsVisible v) :
    splitArguments (Text.join "," ((front ++ [last]).map text) ++ v) =
      front.map text ++ [last.text ++ v] := by
  have hfront : ∀ t ∈ front.map text, Passes 0 t := by
    intro t ht
    obtain ⟨e, -, rfl⟩ := List.mem_map.mp ht
    exact e.passes (Int.le_refl 0)
  have hscan := argumentsFrom_join hfront (last.passes (Int.le_refl 0)) hv
  rw [List.map_append, List.map_singleton, ← hscan]
  refine splitArguments_eq fun argument harg => ?_
  rw [hscan, List.mem_append, List.mem_singleton] at harg
  rcases harg with harg | rfl
  · obtain ⟨e, -, rfl⟩ := List.mem_map.mp harg
    exact ⟨e.isVisible_text, e.text_ne_nil⟩
  · exact ⟨isVisible_append.mpr ⟨last.isVisible_text, hvisible⟩, by simp [last.text_ne_nil]⟩

theorem exists_last (first : TypeExpr) (rest : List TypeExpr) :
    ∃ front last, first :: rest = front ++ [last] :=
  ⟨_, _, (List.dropLast_append_getLast (List.cons_ne_nil first rest)).symm⟩

theorem argumentText_close (t : Text) : argumentText (t ++ ['>']) = t := by
  have hends : Text.endsWith ">" (t ++ ['>']) = true :=
    List.isSuffixOf_iff_suffix.mpr (List.suffix_append t _)
  rw [argumentText, if_pos hends, List.dropLast_concat]

theorem names_text_generic :
    Reference.names (generic n first rest).text =
      n.text :: (first :: rest).flatMap fun e => Reference.names e.text := by
  obtain ⟨front, last, hsplit⟩ := exists_last first rest
  have hscan := splitArguments_join front last (v := []) (by simp) (by decide)
  have helement := element_text (e := generic n first rest) rfl
  rw [names_of_name (helement.trans (text_generic n first rest)), argumentText_close, hsplit]
  rw [List.append_nil, List.append_nil] at hscan
  rw [hscan, List.flatMap_append, List.flatMap_append, List.flatMap_map]
  simp

theorem names_text_array (h : e.isArray = false) :
    Reference.names (array e).text = Reference.names e.text := by
  refine names_congr ?_
  rw [text, element_brackets e.isVisible_text, element_text h]

/-- The names in an expression without arrays of arrays are read from its text. -/
theorem names_text (h : e.isFlat = true) : Reference.names e.text = e.names := by
  induction e with
  | name n =>
    have helement : element (name n).text = n.text := element_text rfl
    have hmark : '<' ∉ n.text := n.notMem rfl
    rw [names_of_notMem (helement ▸ hmark) (helement ▸ n.text_ne), helement, names]
  | generic n first rest ih =>
    rw [isFlat_generic, List.all_eq_true] at h
    rw [names_text_generic, names_generic]
    congr 1
    exact List.flatMap_congr fun e he => ih e he (h e he)
  | array e ih =>
    rw [isFlat, Bool.and_eq_true, Bool.not_eq_true'] at h
    rw [names_text_array h.1, ih h.2, names]

end TypeExpr

section

variable {t u v : Text}

/-- What may be left of a suffix: brackets, without commas and white space. -/
def IsClosing (u : Text) : Prop :=
  ∀ c ∈ u, c = '>' ∨ c = '[' ∨ c = ']'

theorem IsClosing.of_subset (h : IsClosing u) (hv : v ⊆ u) : IsClosing v :=
  fun c hc => h c (hv hc)

theorem IsClosing.isVisible (h : IsClosing u) : IsVisible u := by
  intro c hc
  rcases h c hc with rfl | rfl | rfl <;> decide

theorem IsClosing.comma_notMem (h : IsClosing u) : ',' ∉ u := by
  intro hmem
  simpa using h _ hmem

theorem IsClosing.exists_structural (h : IsClosing u) (hne : u ≠ []) :
    ∃ c ∈ u, isStructural c = true := by
  obtain ⟨c, u, rfl⟩ := List.exists_cons_of_ne_nil hne
  refine ⟨c, by simp, ?_⟩
  rcases h c (by simp) with rfl | rfl | rfl <;> rfl

/-- Taking off an array suffix leaves a bracket in front of it. -/
theorem element_append_close (h : IsVisible (t ++ '>' :: v)) :
    ∃ u, element (t ++ '>' :: v) = t ++ '>' :: u ∧ u ⊆ v := by
  by_cases hends : ['[', ']'] <:+ t ++ '>' :: v
  · obtain ⟨front, heq⟩ := hends
    have hfront : IsVisible front := (isVisible_append.mp (heq ▸ h)).1
    have helement : element (t ++ '>' :: v) = front := by rw [← heq, element_brackets hfront]
    have hsplit : front ++ ['[', ']'] = (t ++ ['>']) ++ v := by simp [heq]
    rcases List.append_eq_append_iff.mp hsplit with ⟨gap, hclose, hgap⟩ | ⟨u, rfl, rfl⟩
    · -- the bracket is none of the suffix, so there is no gap
      rcases List.eq_nil_or_concat gap with rfl | ⟨gap, c, rfl⟩
      · exact ⟨[], by rw [helement, ← List.append_nil front, ← hclose], by simp⟩
      · rw [List.concat_eq_append, ← List.append_assoc] at hclose
        obtain rfl : '>' = c := by simpa using (List.append_inj' hclose rfl).2
        have hmem : '>' ∈ ['[', ']'] := by simp [hgap]
        exact absurd hmem (by decide)
    · exact ⟨u, by simp [helement], by simp⟩
  · exact ⟨v, element_of_not_suffix h hends, by simp⟩

theorem argumentText_append_close (t : Text) (hne : u ≠ []) :
    ∃ v, argumentText (t ++ '>' :: u) = t ++ '>' :: v ∧ v ⊆ u := by
  rw [argumentText]
  split
  · refine ⟨u.dropLast, ?_, List.dropLast_subset u⟩
    rw [List.dropLast_append_of_ne_nil (List.cons_ne_nil _ _), List.dropLast_cons_of_ne_nil hne]
  · exact ⟨u, rfl, List.Subset.refl u⟩

end

namespace TypeExpr

/-- Where something is left behind an expression, there are brackets in one of the names. -/
theorem exists_structural_name (e : TypeExpr) {t u : Text} (ht : element t = e.text ++ u)
    (hne : u ≠ []) (hu : IsClosing u) :
    ∃ name ∈ Reference.names t, ∃ c ∈ name, isStructural c = true := by
  induction e generalizing t u with
  | name n =>
    have hmark : '<' ∉ element t := by
      rw [ht, text, List.mem_append, not_or]
      refine ⟨n.notMem rfl, fun hmem => ?_⟩
      simpa using hu _ hmem
    have hnil : element t ≠ [] := by simp [ht, hne]
    rw [names_of_notMem hmark hnil]
    obtain ⟨c, hc, hstructural⟩ := hu.exists_structural hne
    exact ⟨element t, by simp, c, by simp [ht, hc], hstructural⟩
  | generic n first rest ih =>
    -- what is left of `u` behind the bracket goes to the last argument
    obtain ⟨front, last, hsplit⟩ := exists_last first rest
    have helement : element t =
        n.text ++ '<' :: (Text.join "," ((front ++ [last]).map text) ++ '>' :: u) := by
      rw [ht, text_generic, hsplit]
      simp
    obtain ⟨v, hv, hvu⟩ := argumentText_append_close
      (Text.join "," ((front ++ [last]).map text)) hne
    have hclosing : ∀ {w}, w ⊆ u → IsClosing ('>' :: w) := fun hw =>
      List.forall_mem_cons.mpr ⟨Or.inl rfl, hu.of_subset hw⟩
    have hscan := splitArguments_join front last
      (hclosing hvu).comma_notMem (hclosing hvu).isVisible
    obtain ⟨w, hw, hwv⟩ := element_append_close
      (isVisible_append.mpr ⟨last.isVisible_text, (hclosing hvu).isVisible⟩)
    obtain ⟨name, hname, hstructural⟩ := ih last (by simp [hsplit]) hw (List.cons_ne_nil '>' w)
      (hclosing fun c hc => hvu (hwv hc))
    refine ⟨name, ?_, hstructural⟩
    rw [names_of_name helement, hv, hscan]
    exact List.mem_cons_of_mem _ (List.mem_flatMap.mpr ⟨_, by simp, hname⟩)
  | array e ih =>
    have hclosing : IsClosing (['[', ']'] ++ u) :=
      List.forall_mem_append.mpr ⟨by simp, hu⟩
    refine ih (u := ['[', ']'] ++ u) ?_ (by simp) hclosing
    rw [ht, text, List.append_assoc]

theorem exists_structural_of_not_flat {e : TypeExpr} (h : e.isFlat = false) :
    ∃ name ∈ Reference.names e.text, ∃ c ∈ name, isStructural c = true := by
  induction e with
  | name n => simp [isFlat] at h
  | generic n first rest ih =>
    rw [isFlat_generic, List.all_eq_false] at h
    obtain ⟨e, he, hflat⟩ := h
    obtain ⟨name, hname, hstructural⟩ := ih e he (eq_false_of_ne_true hflat)
    refine ⟨name, ?_, hstructural⟩
    rw [names_text_generic]
    exact List.mem_cons_of_mem _ (List.mem_flatMap.mpr ⟨e, he, hname⟩)
  | array e ih =>
    cases harray : e.isArray with
    | false =>
      rw [names_text_array harray]
      exact ih (by simpa [isFlat, harray] using h)
    | true =>
      -- one suffix is taken off, and the other one is left
      cases e with
      | array e =>
        have hleft : element (array (array e)).text = e.text ++ ['[', ']'] :=
          element_brackets (array e).isVisible_text
        exact exists_structural_name e hleft (by simp) (by simp [IsClosing])
      | name n => simp [isArray] at harray
      | generic n first rest => simp [isArray] at harray

/-- The names in an expression are read from its text just if no array in it is an array of arrays. -/
theorem names_text_iff (e : TypeExpr) : Reference.names e.text = e.names ↔ e.isFlat = true := by
  constructor
  · intro heq
    by_contra hflat
    obtain ⟨name, hname, c, hc, hstructural⟩ :=
      exists_structural_of_not_flat (eq_false_of_ne_true hflat)
    rw [heq] at hname
    rw [isBare_of_mem_names hname c hc] at hstructural
    exact Bool.false_ne_true hstructural
  · exact names_text

/-- An array of arrays. -/
def fooMatrix : TypeExpr :=
  array (array (name ⟨"Foo", by decide, by decide, by decide⟩))

theorem names_text_fooMatrix :
    fooMatrix.text = "Foo[][]" ∧ fooMatrix.names = [("Foo" : Text)] ∧
      Reference.names fooMatrix.text = [("Foo[]" : Text)] ∧
      Reference.names fooMatrix.text ≠ fooMatrix.names := by
  decide +kernel

end TypeExpr

end Stencil.Reference
