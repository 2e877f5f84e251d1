import Mathlib.Data.List.SplitBy
import Stencil.Output.Tidy
import Stencil.Proofs.Text.Ending
import Stencil.Proofs.Text.Fields

namespace Stencil

namespace Text

variable {t : Text} {c : Char}

theorem not_blank_of_mem_getLast?_stripEnd (h : c ∈ (stripEnd t).getLast?) :
    isBlankChar c = false := by
  rw [stripEnd, trimEnd, List.getLast?_reverse] at h
  exact eq_false_of_mem_head?_dropWhile h

/-- Nothing is stripped from the end of a text that something to see stands at. -/
theorem stripEnd_of_getLast? (h : ∀ c ∈ t.getLast?, isBlankChar c = false) : stripEnd t = t := by
  have hdrop : t.reverse.dropWhile isBlankChar = t.reverse := by
    cases hrev : t.reverse with
    | nil => rfl
    | cons c s =>
      have hlast : t.getLast? = some c := by
        rw [← List.head?_reverse, hrev, List.head?_cons]
      rw [List.dropWhile_cons_of_neg (by simp [h c hlast])]
  rw [stripEnd, trimEnd, hdrop, List.reverse_reverse]

theorem eq_nil_of_isBlank (h : ∀ c ∈ t.getLast?, isBlankChar c = false) (hb : isBlank t = true) :
    t = [] := by
  by_contra hne
  have hlast := List.getLast?_eq_some_getLast hne
  have hvisible := h _ hlast
  rw [List.all_eq_true.mp hb _ (List.getLast_mem hne)] at hvisible
  exact absurd hvisible (by decide)

theorem stripEnd_ne_nil (hb : isBlank t = false) : stripEnd t ≠ [] := by
  intro h
  rw [stripEnd, trimEnd, List.reverse_eq_nil_iff, List.dropWhile_eq_nil_iff] at h
  have hall : isBlank t = true := List.all_eq_true.mpr fun c hc => h c (List.mem_reverse.mpr hc)
  rw [hb] at hall
  exact absurd hall (by decide)

end Text

namespace Tidy

open Text

variable {ls rest run : List Text} {line : Text} {k : Nat}

theorem linesFrom_visible (hline : isBlank line = false) (k : Nat) (rest : List Text) :
    linesFrom k (line :: rest) = stripEnd line :: linesFrom 0 rest := by
  rw [linesFrom, if_neg (by simp [hline])]

theorem linesFrom_blank (hline : isBlank line = true) (hk : k < 2) (rest : List Text) :
    linesFrom k (line :: rest) = [] :: linesFrom (k + 1) rest := by
  rw [linesFrom, if_pos hline, if_pos (show k < maxBlankLines from hk)]

theorem linesFrom_blank_more (hline : isBlank line = true) (hk : 2 ≤ k) (rest : List Text) :
    linesFrom k (line :: rest) = linesFrom k rest := by
  rw [linesFrom, if_pos hline, if_neg (show ¬ k < maxBlankLines from Nat.not_lt.mpr hk)]

/-- The number of blank lines in front only matters to blank lines. -/
theorem linesFrom_eq_of_head? (h : ∀ line ∈ ls.head?, isBlank line = false) (k : Nat) :
    linesFrom k ls = linesFrom 0 ls := by
  cases ls with
  | nil => rfl
  | cons line rest =>
    have hline := h line rfl
    rw [linesFrom_visible hline, linesFrom_visible hline]

theorem linesFrom_append_visible (hrun : ∀ line ∈ run, isBlank line = false) (hne : run ≠ [])
    (k : Nat) (rest : List Text) :
    linesFrom k (run ++ rest) = run.map stripEnd ++ linesFrom 0 rest := by
  induction run generalizing k with
  | nil => exact absurd rfl hne
  | cons line run ih =>
    obtain ⟨hline, hrun⟩ := List.forall_mem_cons.mp hrun
    rw [List.cons_append, linesFrom_visible hline, List.map_cons, List.cons_append]
    by_cases hlast : run = []
    · subst hlast
      rfl
    · rw [ih hrun hlast 0]

theorem linesFrom_append_blank (hrun : ∀ line ∈ run, isBlank line = true) (hk : k ≤ 2)
    (rest : List Text) :
    linesFrom k (run ++ rest) =
      List.replicate (min run.length (2 - k)) [] ++ linesFrom (min (k + run.length) 2) rest := by
  induction run generalizing k with
  | nil => simp [Nat.min_eq_left hk]
  | cons line run ih =>
    obtain ⟨hline, hrun⟩ := List.forall_mem_cons.mp hrun
    rw [List.cons_append, List.length_cons]
    by_cases hfew : k < 2
    · have hcount : min (run.length + 1) (2 - k) = min run.length (2 - (k + 1)) + 1 := by omega
      have hnext : k + 1 + run.length = k + (run.length + 1) := by omega
      rw [linesFrom_blank hline hfew, ih hrun hfew, hcount, hnext, List.replicate_succ,
        List.cons_append]
    · have hcount : min (run.length + 1) (2 - k) = min run.length (2 - k) := by omega
      have hnext : min (k + (run.length + 1)) 2 = min (k + run.length) 2 := by omega
      rw [linesFrom_blank_more hline (by omega), ih hrun hk, hcount, hnext]

/-- Both lines are blank, or neither is. -/
def alike (s t : Text) : Bool :=
  isBlank s == isBlank t

/-- The runs of lines: the longest parts in which all lines are blank, or none is. -/
def runs (ls : List Text) : List (List Text) :=
  ls.splitBy alike

/-- What is left of a run: two lines of a blank one, if it has as many, and of any other one each line
without the white space at its end. -/
def tidyRun (run : List Text) : List Text :=
  if run.all isBlank then List.replicate (min run.length 2) [] else run.map stripEnd

/-- All lines of a run are blank, or none is. -/
theorem isBlank_eq_of_isChain {run : List Text} {b : Bool} (hne : run ≠ [])
    (h : run.IsChain fun s t => alike s t = true)
    (hlast : isBlank (run.getLast hne) = b) : ∀ line ∈ run, isBlank line = b := by
  induction run with
  | nil => exact absurd rfl hne
  | cons line run ih =>
    cases run with
    | nil => simpa using hlast
    | cons next run =>
      obtain ⟨hfirst, hrest⟩ := List.isChain_cons_cons.mp h
      have hall := ih (List.cons_ne_nil _ _) hrest (by simpa using hlast)
      refine List.forall_mem_cons.mpr ⟨?_, hall⟩
      rw [show isBlank line = isBlank next from beq_iff_eq.mp hfirst]
      exact hall next List.mem_cons_self

theorem linesFrom_flatten {m : List (List Text)} (hne : [] ∉ m)
    (hrun : ∀ run ∈ m, run.IsChain fun s t => alike s t = true)
    (hchange : m.IsChain fun a b => ∃ ha hb, alike (a.getLast ha) (b.head hb) = false) :
    linesFrom 0 m.flatten = m.flatMap tidyRun := by
  induction m with
  | nil => rfl
  | cons run m ih =>
    have hfirst : run ≠ [] := fun h => hne (h ▸ List.mem_cons_self)
    have hrest := ih (fun h => hne (List.mem_cons_of_mem run h))
      (fun r hr => hrun r (List.mem_cons_of_mem run hr)) hchange.tail
    rw [List.flatten_cons, List.flatMap_cons, tidyRun]
    have hall := isBlank_eq_of_isChain hfirst (hrun run List.mem_cons_self) rfl
    cases hb : isBlank (run.getLast hfirst) with
    | false =>
      have hnot : ¬ run.all isBlank = true := by
        intro h
        have := List.all_eq_true.mp h _ (List.getLast_mem hfirst)
        rw [hb] at this
        exact absurd this (by decide)
      rw [if_neg hnot, linesFrom_append_visible (hb ▸ hall) hfirst, hrest]
    | true =>
      have hnext : ∀ line ∈ m.flatten.head?, isBlank line = false := by
        cases m with
        | nil => simp
        | cons next m =>
          obtain ⟨⟨_, hn, hdiff⟩, -⟩ := List.isChain_cons_cons.mp hchange
          intro line hline
          rw [List.flatten_cons, List.head?_append_of_ne_nil _ hn,
            List.head?_eq_some_head hn] at hline
          cases Option.some.inj hline
          rw [alike, hb] at hdiff
          simpa using hdiff
      rw [if_pos (List.all_eq_true.mpr (hb ▸ hall)), linesFrom_append_blank (hb ▸ hall) (by omega),
        linesFrom_eq_of_head? hnext, hrest]

theorem linesFrom_eq_flatMap (ls : List Text) : linesFrom 0 ls = (runs ls).flatMap tidyRun := by
  have h := linesFrom_flatten (List.nil_notMem_splitBy alike ls)
    (fun _ => List.isChain_of_mem_splitBy) (List.isChain_getLast_head_splitBy alike ls)
  rwa [List.flatten_splitBy] at h

/-- There is nothing to tidy: no line ends in white space, and no three lines in a row are empty. -/
structure IsTidy (ls : List Text) : Prop where
  ends : ∀ line ∈ ls, ∀ c ∈ line.getLast?, isBlankChar c = false
  fewEmpty : ¬ List.replicate 3 [] <:+: ls

/-- A line that is left is empty, or what is left of a line with something to see. -/
theorem eq_of_mem_linesFrom (h : line ∈ linesFrom k ls) :
    line = [] ∨ ∃ first ∈ ls, line = stripEnd first := by
  induction ls generalizing k with
  | nil => simp [linesFrom] at h
  | cons first ls ih =>
    have hlater {j : Nat} (h : line ∈ linesFrom j ls) :
        line = [] ∨ ∃ l ∈ first :: ls, line = stripEnd l :=
      (ih h).imp_right fun ⟨l, hl, heq⟩ => ⟨l, List.mem_cons_of_mem first hl, heq⟩
    cases hb : isBlank first with
    | true =>
      by_cases hk : k < 2
      · rw [linesFrom_blank hb hk] at h
        rcases List.mem_cons.mp h with rfl | h
        · exact Or.inl rfl
        · exact hlater h
      · rw [linesFrom_blank_more hb (by omega)] at h
        exact hlater h
    | false =>
      rw [linesFrom_visible hb] at h
      rcases List.mem_cons.mp h with rfl | h
      · exact Or.inr ⟨first, List.mem_cons_self, rfl⟩
      · exact hlater h

/-- Behind some blank lines stand at most as many as may follow. -/
theorem not_prefix_linesFrom (hk : k ≤ 2) (ls : List Text) :
    ¬ List.replicate (3 - k) [] <+: linesFrom k ls := by
  induction ls generalizing k with
  | nil =>
    intro h
    have hlen := h.length_le
    rw [List.length_replicate] at hlen
    simp only [linesFrom, List.length_nil] at hlen
    omega
  | cons line ls ih =>
    cases hb : isBlank line with
    | true =>
      by_cases hfew : k < 2
      · have hcount : 3 - k = 3 - (k + 1) + 1 := by omega
        rw [linesFrom_blank hb hfew, hcount, List.replicate_succ, List.cons_prefix_cons]
        exact fun h => ih hfew h.2
      · rw [linesFrom_blank_more hb (by omega)]
        exact ih hk
    | false =>
      have hcount : 3 - k = 2 - k + 1 := by omega
      rw [linesFrom_visible hb, hcount, List.replicate_succ, List.cons_prefix_cons]
      exact fun h => stripEnd_ne_nil hb h.1.symm

theorem not_infix_linesFrom (hk : k ≤ 2) (ls : List Text) :
    ¬ List.replicate 3 [] <:+: linesFrom k ls := by
  induction ls generalizing k with
  | nil => simp [linesFrom]
  | cons line ls ih =>
    have hfirst : ¬ List.replicate 3 [] <+: linesFrom k (line :: ls) := by
      have hless : List.replicate (3 - k) ([] : Text) <+: List.replicate 3 [] :=
        List.prefix_replicate_iff.mpr ⟨by simp, by simp⟩
      exact fun h => not_prefix_linesFrom hk (line :: ls) (hless.trans h)
    cases hb : isBlank line with
    | true =>
      by_cases hfew : k < 2
      · rw [linesFrom_blank hb hfew] at hfirst ⊢
        rw [List.infix_cons_iff, not_or]
        exact ⟨hfirst, ih hfew⟩
      · rw [linesFrom_blank_more hb (by omega)]
        exact ih hk
    | false =>
      rw [linesFrom_visible hb] at hfirst ⊢
      rw [List.infix_cons_iff, not_or]
      exact ⟨hfirst, ih (by omega)⟩

theorem isTidy_linesFrom (ls : List Text) : IsTidy (linesFrom 0 ls) where
  ends line h := by
    rcases eq_of_mem_linesFrom h with rfl | ⟨first, -, rfl⟩
    · simp
    · exact fun c => not_blank_of_mem_getLast?_stripEnd
  fewEmpty := not_infix_linesFrom (by omega) ls

theorem IsTidy.tail (h : IsTidy (line :: ls)) : IsTidy ls where
  ends line hline := h.ends line (List.mem_cons_of_mem _ hline)
  fewEmpty h3 := h.fewEmpty (h3.trans (List.suffix_cons _ _).isInfix)

theorem IsTidy.linesFrom_eq (h : IsTidy ls) (hk : k ≤ 2)
    (hfew : ¬ List.replicate (3 - k) [] <+: ls) : linesFrom k ls = ls := by
  induction ls generalizing k with
  | nil => rfl
  | cons line ls ih =>
    have hends := h.ends line List.mem_cons_self
    cases hb : isBlank line with
    | true =>
      obtain rfl := eq_nil_of_isBlank hends hb
      have hcount : 3 - k = 3 - (k + 1) + 1 := by omega
      rw [hcount, List.replicate_succ, List.cons_prefix_cons, not_and] at hfew
      have hmore : k < 2 := by
        by_contra hfull
        have hnone : 3 - (k + 1) = 0 := by omega
        exact hfew rfl (by rw [hnone]; exact List.nil_prefix)
      rw [linesFrom_blank hb hmore, ih h.tail hmore (hfew rfl)]
    | false =>
      have hthree : ¬ List.replicate (3 - 0) [] <+: ls :=
        fun hprefix => h.tail.fewEmpty hprefix.isInfix
      rw [linesFrom_visible hb, stripEnd_of_getLast? hends, ih h.tail (by omega) hthree]

/-- Lines with nothing to tidy are left as they are. -/
theorem IsTidy.linesFrom_zero (h : IsTidy ls) : linesFrom 0 ls = ls :=
  h.linesFrom_eq (by omega) fun hprefix => h.fewEmpty hprefix.isInfix

theorem linesFrom_ne_nil (hne : ls ≠ []) : linesFrom 0 ls ≠ [] := by
  obtain ⟨line, ls, rfl⟩ := List.exists_cons_of_ne_nil hne
  cases hb : isBlank line with
  | true => rw [linesFrom_blank hb (by omega)]; exact List.cons_ne_nil _ _
  | false => rw [linesFrom_visible hb]; exact List.cons_ne_nil _ _

theorem newline_notMem_of_mem_lines {body : Text} (h : line ∈ lines body) : '\n' ∉ line := by
  intro hmem
  have hfalse := eq_false_of_mem_splitOnP h hmem
  simp at hfalse

theorem newline_notMem_of_mem_linesFrom {body : Text} (h : line ∈ linesFrom k (lines body)) :
    '\n' ∉ line := by
  rcases eq_of_mem_linesFrom h with rfl | ⟨first, hfirst, rfl⟩
  · simp
  · intro hmem
    have hstart : stripEnd first <+: first := trimEnd_prefix isBlankChar first
    exact newline_notMem_of_mem_lines hfirst (hstart.subset hmem)

theorem lines_unlines_linesFrom (body : Text) :
    lines (unlines (linesFrom 0 (lines body))) = linesFrom 0 (lines body) := by
  have hne : linesFrom 0 (lines body) ≠ [] := linesFrom_ne_nil (List.splitOn_ne_nil _ _)
  have hself : ∀ line ∈ linesFrom 0 (lines body), lines line = [line] := fun line hline =>
    lines_of_not_mem (newline_notMem_of_mem_linesFrom hline)
  rw [lines_unlines hne, List.flatMap_congr hself, List.flatMap_singleton']

section

variable {filename : Text}

theorem isProse_iff : isProse filename = true ↔
    EndsIgnoringCase ".md" filename ∨ EndsIgnoringCase ".txt" filename := by
  have hmd : ∀ d ∈ (".md" : Text), IsPlainSmall d :=
    List.forall_iff_forall_mem.mp (by decide)
  have htxt : ∀ d ∈ (".txt" : Text), IsPlainSmall d :=
    List.forall_iff_forall_mem.mp (by decide)
  rw [isProse, Bool.or_eq_true, endsWith_lower_iff hmd, endsWith_lower_iff htxt]

/-- A file that holds no prose is left with the lines that its runs come to. So none of them ends in
white space, no three in a row are empty, and there is nothing more to tidy. -/
theorem lines_apply (hmd : ¬ EndsIgnoringCase ".md" filename)
    (htxt : ¬ EndsIgnoringCase ".txt" filename) (body : Text) :
    lines (apply filename body) = (runs (lines body)).flatMap tidyRun ∧
      IsTidy (lines (apply filename body)) ∧
      apply filename (apply filename body) = apply filename body := by
  have hprose : ¬ isProse filename = true := by
    rw [isProse_iff]
    exact not_or.mpr ⟨hmd, htxt⟩
  have happly (t : Text) : apply filename t = unlines (linesFrom 0 (lines t)) := by
    rw [apply, if_neg hprose]
  have hlines : lines (apply filename body) = linesFrom 0 (lines body) := by
    rw [happly, lines_unlines_linesFrom]
  have htidy : IsTidy (lines (apply filename body)) := hlines ▸ isTidy_linesFrom (lines body)
  refine ⟨hlines.trans (linesFrom_eq_flatMap (lines body)), htidy, ?_⟩
  rw [happly (apply filename body), htidy.linesFrom_zero, unlines_lines]

/-- Blank lines at the beginning and in the middle, and other white space than spaces. -/
def looseText : Text :=
  " \n\t\n\r\nx := 1 \r\n\u00a0\n\ny\u2028"

example : apply "main.go" looseText = "\n\nx := 1\n\n\ny".toList := by decide +kernel

theorem lines_apply_looseText :
    ¬ EndsIgnoringCase ".md" "main.go" ∧ ¬ EndsIgnoringCase ".txt" "main.go" ∧
      runs (lines looseText) =
        [[" ".toList, "\t".toList, "\r".toList], ["x := 1 \r".toList], ["\u00a0".toList, []],
          ["y\u2028".toList]] ∧
      lines (apply "main.go" looseText) = (runs (lines looseText)).flatMap tidyRun := by
  have hprose : ¬ isProse "main.go" = true := by decide
  rw [isProse_iff, not_or] at hprose
  obtain ⟨hmd, htxt⟩ := hprose
  exact ⟨hmd, htxt, by decide +kernel, (lines_apply hmd htxt looseText).1⟩

end

end Tidy

end Stencil
