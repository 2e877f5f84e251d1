import Stencil.Proofs.Reference.Reading
import Stencil.Proofs.Text.Fields

namespace Stencil.Reference

open Text (isBlankChar isBlank strip)

section

variable {g s t u left right inner outer argument name : Text} {xs ys : List Text}

/-- Holds nothing but white space and what gives the text of a type its structure. -/
def IsGap (t : Text) : Prop :=
  ∀ c ∈ t, isBlankChar c = true ∨ isStructural c = true

theorem isGap_nil : IsGap [] :=
  List.forall_mem_nil _

theorem isGap_append : IsGap (s ++ t) ↔ IsGap s ∧ IsGap t :=
  List.forall_mem_append

theorem isGap_of_isBlank (h : isBlank t = true) : IsGap t :=
  fun c hc => .inl (List.all_eq_true.mp h c hc)

/-- The text is made of passages with gaps around them. -/
inductive Passages : List Text → Text → Prop
  | nil {gap : Text} (h : IsGap gap) : Passages [] gap
  | cons {gap passage rest : Text} {passages : List Text} (h : IsGap gap)
      (hrest : Passages passages rest) : Passages (passage :: passages) (gap ++ (passage ++ rest))

namespace Passages

theorem prepend (hg : IsGap g) (h : Passages xs t) : Passages xs (g ++ t) := by
  cases h with
  | nil ht => exact .nil (isGap_append.mpr ⟨hg, ht⟩)
  | cons ht hrest =>
    rw [← List.append_assoc]
    exact .cons (isGap_append.mpr ⟨hg, ht⟩) hrest

theorem append (hs : Passages xs s) (ht : Passages ys t) : Passages (xs ++ ys) (s ++ t) := by
  induction hs with
  | nil hgap => exact ht.prepend hgap
  | cons hgap _ ih =>
    rw [List.append_assoc, List.append_assoc]
    exact .cons hgap ih

theorem start (h : Passages xs s) : Passages (t :: xs) (t ++ s) :=
  .cons isGap_nil h

/-- Passages of the passages are passages of the text. -/
theorem flatMap {f : Text → List Text} (h : Passages xs t) (hf : ∀ x ∈ xs, Passages (f x) x) :
    Passages (xs.flatMap f) t := by
  induction h with
  | nil hgap => exact .nil hgap
  | cons hgap _ ih =>
    rw [List.forall_mem_cons] at hf
    rw [List.flatMap_cons]
    exact (hf.1.append (ih hf.2)).prepend hgap

theorem infix_of_mem (h : Passages xs t) {x : Text} (hx : x ∈ xs) : x <:+: t := by
  induction h with
  | nil _ => simp at hx
  | @cons gap passage rest _ _ _ ih =>
    rcases List.mem_cons.mp hx with rfl | hx
    · exact (List.infix_append' gap x rest).trans (by simp)
    · have hrest := (List.suffix_append passage rest).trans (List.suffix_append gap _)
      exact (ih hx).trans hrest.isInfix

end Passages

/-- The text is what is left of another one when gaps are taken off at its ends. -/
def IsCoreOf (u t : Text) : Prop :=
  ∃ left right, t = left ++ (u ++ right) ∧ IsGap left ∧ IsGap right

theorem isCoreOf_of_append (h : IsGap right) : IsCoreOf t (t ++ right) :=
  ⟨[], right, rfl, isGap_nil, h⟩

theorem IsCoreOf.trans (hs : IsCoreOf s t) (ht : IsCoreOf t u) : IsCoreOf s u := by
  obtain ⟨left, right, rfl, hleft, hright⟩ := hs
  obtain ⟨left', right', rfl, hleft', hright'⟩ := ht
  refine ⟨left' ++ left, right ++ right', by simp, ?_, ?_⟩
  · exact isGap_append.mpr ⟨hleft', hleft⟩
  · exact isGap_append.mpr ⟨hright, hright'⟩

theorem Passages.of_core (h : Passages xs s) (hs : IsCoreOf s t) : Passages xs t := by
  obtain ⟨left, right, rfl, hleft, hright⟩ := hs
  have hend := h.append (.nil hright)
  rw [List.append_nil] at hend
  exact hend.prepend hleft

theorem IsCoreOf.sublist (h : IsCoreOf s t) : s.Sublist t := by
  obtain ⟨left, right, rfl, -, -⟩ := h
  exact (List.sublist_append_left s right).trans (List.sublist_append_right left _)

theorem isCoreOf_strip (t : Text) : IsCoreOf (strip t) t := by
  obtain ⟨left, right, ht, hleft, hright⟩ := Text.exists_strip t
  exact ⟨left, right, ht, isGap_of_isBlank hleft, isGap_of_isBlank hright⟩

theorem isCoreOf_element (t : Text) : IsCoreOf (element t) t := by
  have hstrip := isCoreOf_strip t
  rw [element]
  split
  next h =>
    obtain ⟨front, hfront⟩ := List.isSuffixOf_iff_suffix.mp h
    have htake : (strip t).take ((strip t).length - 2) = front := by simp [← hfront]
    have hbrackets : IsGap ['[', ']'] := by simp [IsGap, isStructural]
    have hcut : IsCoreOf front (strip t) := hfront ▸ isCoreOf_of_append hbrackets
    rw [htake]
    exact ((isCoreOf_strip front).trans hcut).trans hstrip
  next => exact hstrip

theorem isCoreOf_argumentText (t : Text) : IsCoreOf (argumentText t) t := by
  rw [argumentText]
  split
  next h =>
    obtain ⟨front, rfl⟩ := List.isSuffixOf_iff_suffix.mp h
    have hdrop : (front ++ ['>']).dropLast = front := List.dropLast_concat
    exact hdrop.symm ▸ isCoreOf_of_append (by simp [IsGap, isStructural])
  next => exact ⟨[], [], by simp, isGap_nil, isGap_nil⟩

theorem passages_unlessEmpty (t : Text) : Passages (unlessEmpty t) t := by
  cases t with
  | nil => exact .nil isGap_nil
  | cons c t =>
    have hsingle : Passages [c :: t] (c :: t ++ []) := .start (.nil isGap_nil)
    rwa [List.append_nil] at hsingle

theorem passages_argumentsFrom (depth : Int) (current t : Text) :
    Passages (argumentsFrom depth current t) (current ++ t) := by
  induction t generalizing depth current with
  | nil => exact .start (.nil isGap_nil)
  | cons c t ih =>
    rw [argumentsFrom]
    split
    next h =>
      have hcomma : IsGap [c] := by simp_all [IsGap, isStructural]
      exact .start ((ih depth []).prepend hcomma)
    next =>
      have hrest := ih (if c = '<' then depth + 1 else if c = '>' then depth - 1 else depth)
        (current ++ [c])
      rwa [List.append_assoc, List.singleton_append] at hrest

theorem splitArguments_eq_flatMap (t : Text) :
    splitArguments t = (argumentsFrom 0 [] t).flatMap fun raw => unlessEmpty (strip raw) := by
  rw [splitArguments]
  induction argumentsFrom 0 [] t with
  | nil => rfl
  | cons x xs ih =>
    rw [List.map_cons, List.flatMap_cons, ← ih, unlessEmpty, List.filter_cons]
    cases strip x <;> rfl

theorem passages_splitArguments (t : Text) : Passages (splitArguments t) t := by
  rw [splitArguments_eq_flatMap]
  exact (passages_argumentsFrom 0 [] t).flatMap fun x _ =>
    (passages_unlessEmpty (strip x)).of_core (isCoreOf_strip x)

/-- An argument has fewer opening brackets than the text, because the first one is passed. -/
theorem count_lt_of_argument (h : element t = outer ++ '<' :: inner)
    (harg : argument ∈ splitArguments (argumentText inner)) : argument.count '<' < t.count '<' := by
  have hpassage := ((passages_splitArguments _).infix_of_mem harg).sublist
  have hinner := (hpassage.trans (isCoreOf_argumentText inner).sublist).count_le '<'
  have helement := (isCoreOf_element t).sublist.count_le '<'
  rw [h, List.count_append, List.count_cons_self] at helement
  omega

/-- What holds of a text if it holds of its arguments holds of every text. -/
theorem argument_induction {motive : Text → Prop}
    (plain : ∀ t, '<' ∉ element t → motive t)
    (applied : ∀ t outer inner, element t = outer ++ '<' :: inner → '<' ∉ outer →
      (∀ argument ∈ splitArguments (argumentText inner), motive argument) → motive t)
    (t : Text) : motive t := by
  induction hn : t.count '<' using Nat.strong_induction_on generalizing t with
  | _ n ih =>
    by_cases hmem : '<' ∈ element t
    · obtain ⟨outer, inner, heq, houter⟩ := List.eq_append_cons_of_mem hmem
      refine applied t outer inner heq houter fun argument harg => ?_
      exact ih _ (hn ▸ count_lt_of_argument heq harg) argument rfl
    · exact plain t hmem

/-- Reading with at most so many calls inside each other. -/
def namesWithin : Nat → Text → Option (List Text)
  | 0, _ => none
  | calls + 1, t =>
    match Text.cut? "<" (element t) with
    | none => some (unlessEmpty (element t))
    | some (outer, inner) =>
      ((splitArguments (argumentText inner)).mapM (namesWithin calls)).map fun found =>
        unlessEmpty (strip outer) ++ found.flatten

theorem mapM_eq_some_map {α β : Type} {f : α → Option β} {g : α → β} {as : List α}
    (h : ∀ a ∈ as, f a = some (g a)) : as.mapM f = some (as.map g) := by
  induction as with
  | nil => rfl
  | cons a as ih =>
    rw [List.forall_mem_cons] at h
    rw [List.mapM_cons, h.1, ih h.2]
    rfl

/-- As many calls as there are opening brackets, and one more, are enough. -/
theorem namesWithin_eq {n : Nat} (h : t.count '<' < n) : namesWithin n t = some (names t) := by
  induction t using argument_induction generalizing n with
  | plain t hmem =>
    obtain ⟨calls, rfl⟩ := Nat.exists_eq_add_one_of_ne_zero (Nat.ne_zero_of_lt h)
    have hcut : Text.cut? "<" (element t) = none := Text.cut?_singleton_eq_none_iff.mpr hmem
    rw [namesWithin, hcut, names_of_plain hmem]
  | applied t outer inner heq houter ih =>
    obtain ⟨calls, rfl⟩ := Nat.exists_eq_add_one_of_ne_zero (Nat.ne_zero_of_lt h)
    have hcut : Text.cut? "<" (element t) = some (outer, inner) :=
      Text.cut?_singleton_eq_some_iff.mpr ⟨heq, houter⟩
    have harguments : (splitArguments (argumentText inner)).mapM (namesWithin calls) =
        some ((splitArguments (argumentText inner)).map names) := by
      refine mapM_eq_some_map fun argument harg => ih argument harg ?_
      have := count_lt_of_argument heq harg
      omega
    rw [namesWithin, hcut, names_of_applied heq houter]
    simp only [harguments, Option.map_some, List.flatMap_def]

theorem passages_names (t : Text) : Passages (names t) t := by
  induction t using argument_induction with
  | plain t hmem =>
    rw [names_of_plain hmem]
    exact (passages_unlessEmpty (element t)).of_core (isCoreOf_element t)
  | applied t outer inner heq houter ih =>
    have hbracket : IsGap ['<'] := by simp [IsGap, isStructural]
    have hfirst : Passages (unlessEmpty (strip outer)) outer :=
      (passages_unlessEmpty (strip outer)).of_core (isCoreOf_strip outer)
    have hrest : Passages ((splitArguments (argumentText inner)).flatMap names) inner :=
      ((passages_splitArguments (argumentText inner)).flatMap ih).of_core
        (isCoreOf_argumentText inner)
    have hwhole := hfirst.append (hrest.prepend hbracket)
    rw [List.singleton_append, ← heq] at hwhole
    rw [names_of_applied heq houter]
    exact hwhole.of_core (isCoreOf_element t)

/-- Is not empty, has no white space at its ends and no opening bracket in it. -/
structure IsPlainName (name : Text) : Prop where
  ne_nil : name ≠ []
  first : ∀ c ∈ name.head?, isBlankChar c = false
  last : ∀ c ∈ name.getLast?, isBlankChar c = false
  bracket_notMem : '<' ∉ name

theorem isPlainName_of_mem_unlessEmpty (hname : name ∈ unlessEmpty (strip t)) (h : '<' ∉ strip t) :
    IsPlainName name := by
  rw [unlessEmpty] at hname
  split at hname
  next => simp at hname
  next hne =>
    obtain rfl := List.mem_singleton.mp hname
    exact ⟨by simpa using hne, fun _ hc => Text.not_blank_of_mem_head?_strip hc,
      fun _ hc => Text.not_blank_of_mem_getLast?_strip hc, h⟩

theorem exists_element_eq_strip (t : Text) : ∃ s, element t = strip s := by
  rw [element]
  split
  next => exact ⟨_, rfl⟩
  next => exact ⟨_, rfl⟩

theorem isPlainName_of_mem_names (h : name ∈ names t) : IsPlainName name := by
  induction t using argument_induction with
  | plain t hmem =>
    rw [names_of_plain hmem] at h
    obtain ⟨s, hs⟩ := exists_element_eq_strip t
    rw [hs] at h hmem
    exact isPlainName_of_mem_unlessEmpty h hmem
  | applied t outer inner heq houter ih =>
    rw [names_of_applied heq houter, List.mem_append, List.mem_flatMap] at h
    rcases h with h | ⟨argument, harg, h⟩
    · refine isPlainName_of_mem_unlessEmpty h fun hmem => ?_
      exact houter (Text.trim_subset isBlankChar outer hmem)
    · exact ih argument harg h

/-- Any text is read to its end, with at most one call more inside each other than there are opening
brackets in it. Its names are plain, and they are passages of the text in their order, between which
stand gaps only. -/
theorem names_are_passages (t : Text) :
    namesWithin (t.count '<' + 1) t = some (names t) ∧
      (∀ name ∈ names t, IsPlainName name) ∧ Passages (names t) t :=
  ⟨namesWithin_eq (Nat.lt_succ_self _), fun _ h => isPlainName_of_mem_names h, passages_names t⟩

/-- Brackets that close nothing keep a comma from parting two names. -/
example : namesWithin 3 "A > <b>,c[], ,<d,e" =
    some (["A >", "b>,c[], ,", "d", "e"].map String.toList) := by
  decide

end

end Stencil.Reference
