import Stencil.Proofs.Name.Words

namespace Stencil.Name

open Text

variable {s t u word : Text} {a b c : Char} {words : List Text}

theorem runs_append_cons (hc : isAsciiAlphanumeric c = false) (s t : Text) :
    runs (s ++ c :: t) = runs s ++ runs t := by
  rw [runs, List.splitOnP_append_cons s t (by simp [hc]), List.filter_append, runs, runs]

theorem IsWord.runs_eq (h : IsWord word) : runs word = [word] := by
  have hwhole : word.splitOnP (fun c => !isAsciiAlphanumeric c) = [word] :=
    List.splitOnP_eq_singleton fun c hc => by simp [h.alphanumeric c hc]
  simp [runs, hwhole, h.ne_nil]

/-- Words are found again behind any separator. -/
theorem runs_join (hc : isAsciiAlphanumeric c = false) (h : ∀ word ∈ words, IsWord word) :
    runs (join [c] words) = words := by
  induction words with
  | nil => rfl
  | cons word words ih =>
    have hword := h word List.mem_cons_self
    have hrest := ih fun other hmem => h other (List.mem_cons_of_mem word hmem)
    cases words with
    | nil => simpa [join] using hword.runs_eq
    | cons next words =>
      rw [join_cons_cons, List.singleton_append, runs_append_cons hc, hword.runs_eq, hrest]
      rfl

theorem flatten_runs (t : Text) : (runs t).flatten = t.filter isAsciiAlphanumeric := by
  rw [runs, List.flatten_filter_not_isEmpty]
  induction t with
  | nil => rfl
  | cons c t ih =>
    rw [List.splitOnP_cons_eq_if_modifyHead, List.filter_cons]
    split
    next hc =>
      rw [if_neg (by simpa using hc)]
      exact ih
    next hc =>
      rw [if_pos (by simpa using hc), ← ih]
      obtain ⟨first, rest, hsplit⟩ :=
        List.exists_cons_of_ne_nil (List.splitOnP_ne_nil (fun c => !isAsciiAlphanumeric c) t)
      rw [hsplit]
      rfl

theorem exists_cutRun_cons (a : Char) (t : Text) :
    ∃ word words, cutRun (a :: t) = (a :: word) :: words := by
  match t with
  | [] => exact ⟨[], [], rfl⟩
  | b :: t =>
    rw [cutRun]
    split
    next => exact ⟨[], _, rfl⟩
    next =>
      split
      next => exact ⟨[], [], rfl⟩
      next word words _ => exact ⟨word, words, rfl⟩

theorem flatten_cutRun (t : Text) : (cutRun t).flatten = t := by
  fun_induction cutRun t with
  | case1 => rfl
  | case2 a => rfl
  | case3 a b t _ ih => simpa using ih
  | case4 a b t _ hnil ih => simp [hnil] at ih
  | case5 a b t _ word words hcut ih => simpa [hcut] using ih

theorem capitalized?_of_not_upper (ha : isAsciiUpper a = false) (t : Text) :
    capitalized? (a :: t) = none := by
  cases t with
  | nil => rfl
  | cons b t => simp [capitalized?, ha]

theorem endsWord_eq (a b : Char) (t : Text) :
    endsWord a b t =
      (isSmallOrDigit a && isAsciiUpper b || isAsciiUpper a && (capitalized? (b :: t)).isSome) := by
  cases t with
  | nil => simp [endsWord, capitalized?]
  | cons c t =>
    by_cases h : isAsciiUpper b && isAsciiLower c <;>
      simp [endsWord, capitalized?, h, Bool.and_assoc]

theorem spaceHumps_cons_of_not (ha : isSmallOrDigit a = false) (t : Text) :
    spaceHumps (a :: t) = a :: spaceHumps t := by
  cases t with
  | nil => rfl
  | cons b t => simp [spaceHumps, ha]

theorem exists_spaceHumps_cons (a : Char) (t : Text) : ∃ u, spaceHumps (a :: t) = a :: u := by
  cases t with
  | nil => exact ⟨[], rfl⟩
  | cons b t =>
    rw [spaceHumps]
    split
    next => exact ⟨_, rfl⟩
    next => exact ⟨_, rfl⟩

/-- Behind a capital the first pass changes nothing that the second one looks at. -/
theorem capitalized?_spaceHumps (t : Text) : capitalized? (spaceHumps t) = capitalized? t := by
  match t with
  | [] => rfl
  | [b] => rfl
  | b :: c :: t =>
    by_cases hb : isAsciiUpper b = true
    · obtain ⟨u, hu⟩ := exists_spaceHumps_cons c t
      rw [spaceHumps_cons_of_not (isSmallOrDigit_of_isAsciiUpper hb), hu, capitalized?, capitalized?]
    · rw [Bool.not_eq_true] at hb
      obtain ⟨u, hu⟩ := exists_spaceHumps_cons b (c :: t)
      rw [hu, capitalized?_of_not_upper hb, capitalized?_of_not_upper hb]

/-- Puts spaces at all boundaries. -/
def spaceWords (t : Text) : Text :=
  spaceAcronyms (spaceHumps t)

/-- Both passes together put spaces where a word ends. -/
theorem spaceWords_cons_cons (a b : Char) (t : Text) :
    spaceWords (a :: b :: t) =
      if endsWord a b t then a :: ' ' :: spaceWords (b :: t) else a :: spaceWords (b :: t) := by
  rw [endsWord_eq]
  by_cases hhump : (isSmallOrDigit a && isAsciiUpper b) = true
  · have ha : isAsciiUpper a = false := by
      by_contra hupper
      rw [isSmallOrDigit_of_isAsciiUpper (by simpa using hupper)] at hhump
      simp at hhump
    have hspace : isAsciiUpper ' ' = false := by decide
    rw [hhump, Bool.true_or, if_pos rfl, spaceWords, spaceHumps, if_pos hhump, spaceAcronyms_cons,
      ha, Bool.false_and, if_neg Bool.false_ne_true, spaceAcronyms_cons, hspace, Bool.false_and,
      if_neg Bool.false_ne_true]
    rfl
  · rw [spaceWords, spaceHumps, if_neg hhump, spaceAcronyms_cons, capitalized?_spaceHumps,
      Bool.eq_false_iff.mpr hhump, Bool.false_or]
    rfl

theorem spaceWords_eq_join (t : Text) : spaceWords t = join " " (cutRun t) := by
  fun_induction cutRun t with
  | case1 => rfl
  | case2 a => rfl
  | case3 a b t hends ih =>
    obtain ⟨word, words, hcut⟩ := exists_cutRun_cons b t
    rw [spaceWords_cons_cons, if_pos hends, ih, hcut, join_cons_cons]
    rfl
  | case4 a b t _ hnil ih =>
    obtain ⟨word, words, hcut⟩ := exists_cutRun_cons b t
    simp [hcut] at hnil
  | case5 a b t hends word words hcut ih =>
    rw [spaceWords_cons_cons, if_neg hends, ih, hcut]
    cases words with
    | nil => simp [join]
    | cons next words => rw [join_cons_cons, join_cons_cons, List.cons_append]

theorem endsWord_separator_left (hc : isAsciiAlphanumeric c = false) (b : Char) (t : Text) :
    endsWord c b t = false := by
  simp only [isAsciiAlphanumeric, Bool.or_eq_false_iff] at hc
  simp [endsWord, isSmallOrDigit, hc]

theorem endsWord_separator_right (hc : isAsciiAlphanumeric c = false) (a : Char) (t : Text) :
    endsWord a c t = false := by
  simp only [isAsciiAlphanumeric, Bool.or_eq_false_iff] at hc
  simp [endsWord, hc]

/-- What stands behind a separator has no say in where a word ends in front of it. -/
theorem endsWord_append_separator (hc : isAsciiAlphanumeric c = false) (a b : Char) (s t : Text) :
    endsWord a b (s ++ c :: t) = endsWord a b s := by
  simp only [isAsciiAlphanumeric, Bool.or_eq_false_iff] at hc
  cases s with
  | nil => simp [endsWord, hc]
  | cons d s => rfl

theorem spaceWords_append_cons (hc : isAsciiAlphanumeric c = false) (s t : Text) :
    spaceWords (s ++ c :: t) = spaceWords s ++ c :: spaceWords t := by
  have hhead : spaceWords (c :: t) = c :: spaceWords t := by
    cases t with
    | nil => rfl
    | cons b t =>
      rw [spaceWords_cons_cons, endsWord_separator_left hc, if_neg Bool.false_ne_true]
  induction s with
  | nil => exact hhead
  | cons a s ih =>
    cases s with
    | nil =>
      rw [List.singleton_append, spaceWords_cons_cons, endsWord_separator_right hc,
        if_neg Bool.false_ne_true, hhead]
      rfl
    | cons b s =>
      simp only [List.cons_append] at ih ⊢
      rw [spaceWords_cons_cons, endsWord_append_separator hc, ih, spaceWords_cons_cons]
      split
      next => rfl
      next => rfl

theorem ne_nil_of_mem_cutRun (hmem : word ∈ cutRun t) : word ≠ [] := by
  fun_induction cutRun t with
  | case1 => simp at hmem
  | case2 a => simp [List.mem_singleton.mp hmem]
  | case3 a b t _ ih =>
    rcases List.mem_cons.mp hmem with rfl | hmem
    · exact List.cons_ne_nil a []
    · exact ih hmem
  | case4 a b t _ hnil ih => simp [List.mem_singleton.mp hmem]
  | case5 a b t _ first rest hcut ih =>
    rcases List.mem_cons.mp hmem with rfl | hmem
    · exact List.cons_ne_nil a first
    · exact ih (hcut ▸ List.mem_cons_of_mem first hmem)

theorem isWord_of_mem_cutRun (h : ∀ c ∈ t, isAsciiAlphanumeric c = true)
    (hmem : word ∈ cutRun t) : IsWord word := by
  refine ⟨ne_nil_of_mem_cutRun hmem, fun c hc => h c ?_⟩
  rw [← flatten_cutRun t]
  exact List.mem_flatten_of_mem hmem hc

/-- With less text behind it a word ends no sooner. -/
theorem endsWord_extend (h : endsWord a b s = true) (hst : s <+: t) : endsWord a b t = true := by
  cases s with
  | nil =>
    have hhump : (isSmallOrDigit a && isAsciiUpper b) = true := by simpa [endsWord] using h
    rw [endsWord, hhump, Bool.true_or]
  | cons c s =>
    obtain ⟨rest, rfl⟩ := hst
    exact h

/-- What is cut is not cut again. -/
theorem cutRun_of_mem (hmem : word ∈ cutRun t) : cutRun word = [word] := by
  fun_induction cutRun t generalizing word with
  | case1 => simp at hmem
  | case2 a => rw [List.mem_singleton.mp hmem, cutRun]
  | case3 a b t _ ih =>
    rcases List.mem_cons.mp hmem with rfl | hmem
    · rw [cutRun]
    · exact ih hmem
  | case4 a b t _ hnil ih => rw [List.mem_singleton.mp hmem, cutRun]
  | case5 a b t hends first rest hcut ih =>
    rw [hcut] at ih
    rcases List.mem_cons.mp hmem with rfl | hmem
    · obtain ⟨u, words, hb⟩ := exists_cutRun_cons b t
      obtain ⟨rfl, rfl⟩ := List.cons.inj (hcut.symm.trans hb)
      have hwhole : (b :: u) ++ rest.flatten = b :: t := by
        rw [← flatten_cutRun (b :: t), hcut, List.flatten_cons]
      have hprefix : u <+: t := ⟨rest.flatten, (List.cons.inj hwhole).2⟩
      rw [cutRun, if_neg fun h => hends (endsWord_extend h hprefix),
        ih List.mem_cons_self]
    · exact ih (List.mem_cons_of_mem first hmem)

theorem runs_spaceWords_of_word (h : IsWord word) : runs (spaceWords word) = cutRun word := by
  rw [spaceWords_eq_join]
  exact runs_join (by decide) fun other hmem => isWord_of_mem_cutRun h.alphanumeric hmem

/-- Cutting the text between separators is cutting its runs. -/
theorem splitWords_eq_flatMap_cutRun (t : Text) : splitWords t = (runs t).flatMap cutRun := by
  rw [splitWords_eq_runs]
  -- the induction passes over a beginning of letters and digits, which is not cut yet
  suffices hfrom : ∀ start : Text, (∀ c ∈ start, isAsciiAlphanumeric c = true) →
      runs (spaceWords (start ++ t)) = (runs (start ++ t)).flatMap cutRun from
    hfrom [] (by simp)
  have hstart : ∀ start : Text, (∀ c ∈ start, isAsciiAlphanumeric c = true) →
      runs (spaceWords start) = (runs start).flatMap cutRun := by
    intro start h
    by_cases hne : start = []
    · rw [hne]
      rfl
    · have hword : IsWord start := ⟨hne, h⟩
      rw [runs_spaceWords_of_word hword, hword.runs_eq, List.flatMap_singleton]
  induction t with
  | nil =>
    intro start h
    rw [List.append_nil]
    exact hstart start h
  | cons c t ih =>
    intro start h
    by_cases hc : isAsciiAlphanumeric c = true
    · rw [List.append_cons]
      refine ih (start ++ [c]) fun d hd => ?_
      rcases List.mem_append.mp hd with hd | hd
      · exact h d hd
      · rw [List.mem_singleton.mp hd, hc]
    · rw [Bool.not_eq_true] at hc
      have hrest := ih [] (by simp)
      rw [List.nil_append] at hrest
      rw [spaceWords_append_cons hc, runs_append_cons hc, runs_append_cons hc, hstart start h, hrest,
        List.flatMap_append]

/-- The words of a text are what is left of its runs of letters and digits when each is cut where a
word ends. Nothing else is lost, no word is empty, and each word is the only word of itself. -/
theorem splitWords_cuts_runs (t : Text) :
    splitWords t = (runs t).flatMap cutRun ∧
      (splitWords t).flatten = t.filter isAsciiAlphanumeric ∧
      ∀ word ∈ splitWords t, word ≠ [] ∧ splitWords word = [word] := by
  have hcuts := splitWords_eq_flatMap_cutRun t
  have hpieces : ∀ ws : List Text, (ws.flatMap cutRun).flatten = ws.flatten := by
    intro ws
    induction ws with
    | nil => rfl
    | cons w ws ih => rw [List.flatMap_cons, List.flatten_append, flatten_cutRun, ih, List.flatten_cons]
  refine ⟨hcuts, ?_, fun word hmem => ?_⟩
  · rw [hcuts, hpieces, flatten_runs]
  · have hword := isWord_of_mem_splitWords hmem
    rw [hcuts] at hmem
    obtain ⟨run, -, hrun⟩ := List.mem_flatMap.mp hmem
    refine ⟨hword.ne_nil, ?_⟩
    rw [splitWords_eq_flatMap_cutRun, hword.runs_eq, List.flatMap_singleton, cutRun_of_mem hrun]

theorem splitWords_cuts_runs_server :
    "Server2".toList ∈ splitWords "HTTPServer2Go_config--éID" ∧
      splitWords "Server2" = ["Server2".toList] := by
  have hmem : "Server2".toList ∈ splitWords "HTTPServer2Go_config--éID" := by decide
  exact ⟨hmem, ((splitWords_cuts_runs _).2.2 _ hmem).2⟩

end Stencil.Name
