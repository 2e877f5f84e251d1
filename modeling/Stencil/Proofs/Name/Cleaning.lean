import Stencil.Proofs.Language.Identifiers
import Stencil.Proofs.Name.Cuts

namespace Stencil

open Text

namespace Name

variable {s t : Text} {p : Char → Bool} {f : Char → Char}

theorem runs_append_left (hs : ∀ c ∈ s, isAsciiAlphanumeric c = false) (t : Text) :
    runs (s ++ t) = runs t := by
  induction s with
  | nil => rfl
  | cons c s ih =>
    have hc := hs c List.mem_cons_self
    have hrest := ih fun d hd => hs d (List.mem_cons_of_mem c hd)
    have hcut := runs_append_cons hc [] (s ++ t)
    rw [hrest] at hcut
    exact hcut

theorem runs_append_right (hs : ∀ c ∈ s, isAsciiAlphanumeric c = false) (t : Text) :
    runs (t ++ s) = runs t := by
  cases s with
  | nil => rw [List.append_nil]
  | cons c s =>
    have hc := hs c List.mem_cons_self
    have hnone := runs_append_left (fun d hd => hs d (List.mem_cons_of_mem c hd)) []
    rw [List.append_nil] at hnone
    rw [runs_append_cons hc, hnone]
    exact List.append_nil (runs t)

theorem runs_trim (hp : ∀ c, p c = true → isAsciiAlphanumeric c = false) (t : Text) :
    runs (trim p t) = runs t := by
  have htaken : ∀ u : Text, ∀ c ∈ u.takeWhile p, isAsciiAlphanumeric c = false := by
    intro u c hc
    exact hp c (List.mem_takeWhile_imp hc)
  have hfront := runs_append_left (htaken t) (t.dropWhile p)
  rw [List.takeWhile_append_dropWhile] at hfront
  have hend : ∀ u : Text, runs (trimEnd p u) = runs u := by
    intro u
    have hwhole : trimEnd p u ++ (u.reverse.takeWhile p).reverse = u := by
      rw [trimEnd, ← List.reverse_append, List.takeWhile_append_dropWhile, List.reverse_reverse]
    have hback := runs_append_right (s := (u.reverse.takeWhile p).reverse)
      (fun c hc => htaken u.reverse c (List.mem_reverse.mp hc)) (trimEnd p u)
    rw [hwhole] at hback
    exact hback.symm
  rw [trim, hend, ← hfront]

/-- Separators may be written for each other. -/
theorem runs_map (hkept : ∀ c, isAsciiAlphanumeric c = true → f c = c)
    (hother : ∀ c, isAsciiAlphanumeric c = false → isAsciiAlphanumeric (f c) = false) (t : Text) :
    runs (t.map f) = runs t := by
  -- the induction passes over a beginning of letters and digits, which is not cut yet
  suffices hfrom : ∀ start : Text, runs (start ++ t.map f) = runs (start ++ t) from hfrom []
  induction t with
  | nil => exact fun start => rfl
  | cons c t ih =>
    intro start
    cases hc : isAsciiAlphanumeric c with
    | true =>
      have hnext := ih (start ++ [c])
      rw [List.append_assoc, List.append_assoc] at hnext
      rw [List.map_cons, hkept c hc]
      exact hnext
    | false =>
      have hrest : runs (t.map f) = runs t := ih []
      rw [List.map_cons, runs_append_cons hc, runs_append_cons (hother c hc), hrest]

theorem splitWords_congr (h : runs s = runs t) : splitWords s = splitWords t := by
  rw [splitWords_eq_flatMap_cutRun, splitWords_eq_flatMap_cutRun, h]

theorem convert_congr (h : splitWords s = splitWords t) (style : Style) :
    convert style s = convert style t := by
  cases style <;> simp only [convert, toSnake, toKebab, toCamel, toPascal, toScreaming, h]

end Name

namespace Sanitizer

open Name

/-- Underscores stand for other characters, and there are no separators around the name. -/
def kept (name : Text) : Text :=
  trim (fun c => c = '_' || c = '-') (name.map fun c => if isNameChar c then c else '_')

theorem clean_eq (name : Text) :
    clean name = if (kept name).isEmpty then "value".toList else kept name := rfl

theorem runs_kept (name : Text) : runs (kept name) = runs name := by
  have htrim : ∀ c : Char, (decide (c = '_') || decide (c = '-')) = true →
      isAsciiAlphanumeric c = false := by
    intro c hc
    rw [Bool.or_eq_true, decide_eq_true_eq, decide_eq_true_eq] at hc
    rcases hc with rfl | rfl <;> decide
  have hkept : ∀ c, isAsciiAlphanumeric c = true → (if isNameChar c then c else '_') = c := by
    intro c hc
    rw [isNameChar, hc, Bool.true_or, Bool.true_or, if_pos rfl]
  have hother : ∀ c, isAsciiAlphanumeric c = false →
      isAsciiAlphanumeric (if isNameChar c then c else '_') = false := by
    intro c hc
    split
    next => exact hc
    next => decide
  rw [kept, runs_trim htrim, runs_map hkept hother]

/-- Nothing is left of a name without letters and digits, and of no other. -/
theorem isEmpty_kept (name : Text) : (kept name).isEmpty = !name.any isAsciiAlphanumeric := by
  have hfilter : (kept name).filter isAsciiAlphanumeric = name.filter isAsciiAlphanumeric := by
    rw [← flatten_runs, ← flatten_runs, runs_kept]
  cases hany : name.any isAsciiAlphanumeric with
  | true =>
    obtain ⟨c, hc, halpha⟩ := List.any_eq_true.mp hany
    have hmem : c ∈ kept name := by
      have hkept := List.mem_filter.mpr ⟨hc, halpha⟩
      rw [← hfilter] at hkept
      exact (List.mem_filter.mp hkept).1
    simpa using List.ne_nil_of_mem hmem
  | false =>
    have hnone : name.filter isAsciiAlphanumeric = [] := by
      apply List.filter_eq_nil_iff.mpr
      exact List.any_eq_false.mp hany
    rw [hnone] at hfilter
    by_contra hne
    have hne' : kept name ≠ [] := by simpa using hne
    obtain ⟨c, hc, hedge⟩ := exists_mem_trim hne'
    obtain ⟨d, hd, heq⟩ := List.mem_map.mp (trim_subset _ _ hc)
    rw [Bool.or_eq_false_iff] at hedge
    have hname : isNameChar c = true := heq ▸ isNameChar_kept d
    rw [isNameChar, hedge.1, hedge.2, Bool.or_false, Bool.or_false] at hname
    exact List.filter_eq_nil_iff.mp hfilter c hc hname

theorem splitWords_clean (name : Text) :
    splitWords (clean name) =
      splitWords (if name.any isAsciiAlphanumeric then name else "value") := by
  rw [clean_eq, isEmpty_kept]
  cases name.any isAsciiAlphanumeric with
  | true => exact splitWords_congr (runs_kept name)
  | false => rfl

theorem guardDigit_eq (t : Text) :
    guardDigit t = if t.head?.any isAsciiDigit then '_' :: t else t := by
  cases t with
  | nil => rfl
  | cons c t => rfl

/-- A sanitized name is the name itself in the case style, or `value` if it has no letter and no
digit, with an underscore in front of a digit at its beginning; the suffix marks it if it is then a
reserved word. -/
theorem sanitize_eq_convert (z : Sanitizer) (style : Style) (suffix name : Text) :
    z.sanitize style suffix name =
      let plain := convert style (if name.any isAsciiAlphanumeric then name else "value")
      let guarded := if plain.head?.any isAsciiDigit then '_' :: plain else plain
      if guarded ∈ z.reserved then guarded ++ suffix else guarded := by
  have hplain := convert_congr (splitWords_clean name) style
  simp only [sanitize, isReserved, List.contains_iff_mem, guardDigit_eq, hplain]

example : (⟨["_9_lives".toList], []⟩ : Sanitizer).sanitize .snake "!" "é9-Lives_" =
    "_9_lives!".toList := by
  decide

end Sanitizer

end Stencil
