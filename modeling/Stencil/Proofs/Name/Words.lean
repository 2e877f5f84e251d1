import Stencil.Name.Style
import Stencil.Proofs.Text.Lines

namespace Stencil.Name

open Text

structure IsWord (word : Text) : Prop where
  ne_nil : word ≠ []
  alphanumeric : ∀ c ∈ word, isAsciiAlphanumeric c = true

/-- A character of identifiers. -/
def isIdentifierChar (c : Char) : Bool :=
  isAsciiAlphanumeric c || c = '_'

variable {t word : Text} {c : Char}

/-- Of letters and digits a fact can be seen from the ASCII ones alone. -/
theorem forall_alphanumeric {q : Char → Prop}
    (hascii : ∀ n < 0x80, isAsciiAlphanumeric (Char.ofNat n) = true → q (Char.ofNat n))
    (hc : isAsciiAlphanumeric c = true) : q c := by
  have hlt : c.toNat < 0x80 := by
    simp only [isAsciiAlphanumeric, isAsciiUpper, isAsciiLower, isAsciiDigit, Bool.or_eq_true,
      Bool.and_eq_true, decide_eq_true_eq] at hc
    have hz : 'z'.toNat < 0x80 ∧ 'Z'.toNat < 0x80 ∧ '9'.toNat < 0x80 := by decide
    rcases hc with (⟨-, hle⟩ | ⟨-, hle⟩) | ⟨-, hle⟩
    · have : c.toNat ≤ 'Z'.toNat := hle
      omega
    · have : c.toNat ≤ 'z'.toNat := hle
      omega
    · have : c.toNat ≤ '9'.toNat := hle
      omega
  have := hascii c.toNat hlt
  rw [Char.ofNat_toNat] at this
  exact this hc

theorem isSmallOrDigit_of_isAsciiUpper (hc : isAsciiUpper c = true) : isSmallOrDigit c = false :=
  forall_alphanumeric (q := fun c => isAsciiUpper c = true → isSmallOrDigit c = false) (by decide)
    (by rw [isAsciiAlphanumeric, hc]; rfl) hc

theorem isAsciiUpper_of_isAsciiLower (hc : isAsciiLower c = true) : isAsciiUpper c = false :=
  forall_alphanumeric (q := fun c => isAsciiLower c = true → isAsciiUpper c = false) (by decide)
    (by rw [isAsciiAlphanumeric, hc, Bool.or_true]; rfl) hc

section

variable {find? : Text → Option (Text × Text)} {a : Char} {capitals last rest : Text}

theorem spaceMatches_cons_of_none (h : find? (a :: t) = none) :
    spaceMatches find? (a :: t) = a :: spaceMatches find? t := by
  simp only [spaceMatches, spaceFrom, h]

theorem spaceFrom_length_append (find? : Text → Option (Text × Text)) (s t : Text) :
    spaceFrom find? s.length (s ++ t) = spaceMatches find? t := by
  induction s with
  | nil => rfl
  | cons c s ih => exact ih

/-- A match is passed over as a whole. -/
theorem spaceMatches_append_of_some {left right : Text} (hne : left ≠ [])
    (h : find? (left ++ right ++ t) = some (left, right)) :
    spaceMatches find? (left ++ right ++ t) = left ++ ' ' :: right ++ spaceMatches find? t := by
  obtain ⟨c, rest, rfl⟩ := List.exists_cons_of_ne_nil hne
  simp only [List.cons_append] at h ⊢
  have hlength : (c :: rest).length + right.length - 1 = (rest ++ right).length := by
    simp only [List.length_cons, List.length_append]
    omega
  simp only [spaceMatches, spaceFrom, h, hlength, spaceFrom_length_append, List.cons_append]

theorem hump?_of_not (ha : isSmallOrDigit a = false) (t : Text) : hump? (a :: t) = none := by
  cases t with
  | nil => rfl
  | cons b t => simp [hump?, ha]

/-- Marking the humps match by match comes to marking them place by place: no match begins where
another one ends. -/
theorem spaceMatches_hump (t : Text) : spaceMatches hump? t = spaceHumps t := by
  fun_induction spaceHumps t with
  | case1 a b t hhump ih =>
    have hb : isSmallOrDigit b = false := by
      rw [Bool.and_eq_true] at hhump
      exact isSmallOrDigit_of_isAsciiUpper hhump.2
    rw [spaceMatches_cons_of_none (hump?_of_not hb t)] at ih
    have hmatch : hump? ([a] ++ [b] ++ t) = some ([a], [b]) := by simp [hump?, hhump]
    have hspaced := spaceMatches_append_of_some (List.cons_ne_nil a []) hmatch
    simpa [← ih] using hspaced
  | case2 a b t hhump ih =>
    rw [spaceMatches_cons_of_none (by simp [hump?, hhump]), ih]
  | case3 t hshort =>
    match t with
    | [] => rfl
    | [a] => rfl
    | a :: b :: t => exact absurd rfl (hshort a b t)

theorem acronym?_of_not_upper (ha : isAsciiUpper a = false) (t : Text) :
    acronym? (a :: t) = none := by
  simp [acronym?, ha]

theorem eq_of_capitalized? (h : capitalized? t = some last) :
    ∃ b c rest, last = [b, c] ∧ t = b :: c :: rest ∧ isAsciiUpper b = true ∧
      isAsciiLower c = true := by
  unfold capitalized? at h
  split at h
  next b c rest =>
    split at h
    next hbc =>
      rw [Bool.and_eq_true] at hbc
      exact ⟨b, c, rest, (Option.some.inj h).symm, rfl, hbc⟩
    next => simp at h
  next => simp at h

/-- An acronym with the capital and small letter behind it stands in front of its text. -/
theorem eq_of_acronym? (h : acronym? t = some (capitals, last)) :
    ∃ rest, t = capitals ++ last ++ rest ∧ capitals ≠ [] := by
  induction t generalizing capitals with
  | nil => simp [acronym?] at h
  | cons a t ih =>
    rw [acronym?] at h
    split at h
    next =>
      cases hlonger : acronym? t with
      | some found =>
        obtain ⟨more, last'⟩ := found
        simp only [hlonger, Option.some.injEq, Prod.mk.injEq] at h
        obtain ⟨rfl, rfl⟩ := h
        obtain ⟨rest, rfl, -⟩ := ih hlonger
        exact ⟨rest, rfl, List.cons_ne_nil a more⟩
      | none =>
        simp only [hlonger, Option.map_eq_some_iff, Prod.mk.injEq] at h
        obtain ⟨last', hlast, rfl, rfl⟩ := h
        obtain ⟨b, c, rest, rfl, rfl, -⟩ := eq_of_capitalized? hlast
        exact ⟨rest, rfl, List.cons_ne_nil a []⟩
    next => simp at h

theorem acronym?_of_capitalized? (h : capitalized? t = some last) : acronym? t = none := by
  obtain ⟨b, c, rest, -, rfl, -, hc⟩ := eq_of_capitalized? h
  have hupper := isAsciiUpper_of_isAsciiLower hc
  have hbehind : capitalized? (c :: rest) = none := by
    cases rest <;> simp [capitalized?, hupper]
  rw [acronym?, acronym?_of_not_upper hupper, hbehind]
  simp

/-- Capitals are given back to the rest of the pattern only where they have to be: a space comes
behind a capital exactly if a capital with a small letter follows. -/
theorem spaceMatches_acronym_cons (a : Char) (t : Text) :
    spaceMatches acronym? (a :: t) =
      if isAsciiUpper a && (capitalized? t).isSome then a :: ' ' :: spaceMatches acronym? t
      else a :: spaceMatches acronym? t := by
  by_cases ha : isAsciiUpper a = true
  · cases hlast : capitalized? t with
    | none =>
      rw [if_neg (by simp)]
      cases hlonger : acronym? t with
      | none => exact spaceMatches_cons_of_none (by simp [acronym?, ha, hlonger, hlast])
      | some found =>
        obtain ⟨more, last⟩ := found
        have hwhole : acronym? (a :: t) = some (a :: more, last) := by
          simp [acronym?, ha, hlonger]
        obtain ⟨rest, rfl, hne⟩ := eq_of_acronym? hlonger
        rw [spaceMatches_append_of_some hne hlonger]
        exact spaceMatches_append_of_some (List.cons_ne_nil a more) hwhole
    | some last =>
      have hnone := acronym?_of_capitalized? hlast
      have hwhole : acronym? (a :: t) = some ([a], last) := by simp [acronym?, ha, hnone, hlast]
      obtain ⟨b, c, rest, rfl, rfl, -, hc⟩ := eq_of_capitalized? hlast
      have hmatch : acronym? ([a] ++ [b, c] ++ rest) = some ([a], [b, c]) := hwhole
      have hbehind := acronym?_of_not_upper (isAsciiUpper_of_isAsciiLower hc) rest
      rw [if_pos (by simp [ha]), spaceMatches_cons_of_none hnone, spaceMatches_cons_of_none hbehind]
      exact spaceMatches_append_of_some (List.cons_ne_nil a []) hmatch
  · rw [Bool.not_eq_true] at ha
    rw [ha, Bool.false_and, if_neg Bool.false_ne_true]
    exact spaceMatches_cons_of_none (acronym?_of_not_upper ha t)

theorem spaceAcronyms_cons (a : Char) (t : Text) :
    spaceAcronyms (a :: t) =
      if isAsciiUpper a && (capitalized? t).isSome then a :: ' ' :: spaceAcronyms t
      else a :: spaceAcronyms t := by
  match t with
  | [] => simp [spaceAcronyms, capitalized?]
  | [b] => simp [spaceAcronyms, capitalized?]
  | b :: c :: t =>
    by_cases h : isAsciiUpper b && isAsciiLower c <;>
      simp [spaceAcronyms, capitalized?, h, Bool.and_assoc]

/-- Marking the acronyms match by match, the longest match first, comes to marking them place by
place. -/
theorem spaceMatches_acronym (t : Text) : spaceMatches acronym? t = spaceAcronyms t := by
  induction t with
  | nil => rfl
  | cons a t ih => rw [spaceMatches_acronym_cons, spaceAcronyms_cons, ih]

end

theorem splitWords_eq_runs (t : Text) : splitWords t = runs (spaceAcronyms (spaceHumps t)) := by
  rw [splitWords, spaceMatches_hump, spaceMatches_acronym]

theorem subset_spaceHumps (t : Text) : t ⊆ spaceHumps t := by
  fun_induction spaceHumps t with
  | case1 a b t _ ih => exact List.cons_subset_cons a (List.subset_cons_of_subset ' ' ih)
  | case2 a b t _ ih => exact List.cons_subset_cons a ih
  | case3 t _ => exact List.Subset.refl t

theorem subset_spaceAcronyms (t : Text) : t ⊆ spaceAcronyms t := by
  fun_induction spaceAcronyms t with
  | case1 a b c t _ ih => exact List.cons_subset_cons a (List.subset_cons_of_subset ' ' ih)
  | case2 a b c t _ ih => exact List.cons_subset_cons a ih
  | case3 t _ => exact List.Subset.refl t

theorem isWord_of_mem_splitWords (h : word ∈ splitWords t) : IsWord word := by
  obtain ⟨hmem, hne⟩ := List.mem_filter.mp h
  refine ⟨by simpa using hne, fun c hc => ?_⟩
  simpa using eq_false_of_mem_splitOnP hmem hc

theorem splitWords_ne_nil (hc : c ∈ t) (halpha : isAsciiAlphanumeric c = true) :
    splitWords t ≠ [] := by
  have hspaced := subset_spaceAcronyms _ (subset_spaceHumps t hc)
  obtain ⟨run, hrun, hmem⟩ :=
    exists_mem_splitOnP (p := fun c => !isAsciiAlphanumeric c) hspaced (by simp [halpha])
  rw [splitWords_eq_runs]
  refine List.ne_nil_of_mem (List.mem_filter.mpr ⟨hrun, ?_⟩)
  simpa using List.ne_nil_of_mem hmem

theorem isAsciiAlphanumeric_toLower (hc : isAsciiAlphanumeric c = true) :
    isAsciiAlphanumeric c.toLower = true :=
  forall_alphanumeric (q := fun c => isAsciiAlphanumeric c.toLower = true) (by decide) hc

theorem isAsciiAlphanumeric_toUpper (hc : isAsciiAlphanumeric c = true) :
    isAsciiAlphanumeric c.toUpper = true :=
  forall_alphanumeric (q := fun c => isAsciiAlphanumeric c.toUpper = true) (by decide) hc

theorem upperChar_of_alphanumeric (hc : isAsciiAlphanumeric c = true) :
    upperChar c = [c.toUpper] :=
  forall_alphanumeric (q := fun c => upperChar c = [c.toUpper]) (by decide) hc

theorem isIdentifierChar_of_alphanumeric (hc : isAsciiAlphanumeric c = true) :
    isIdentifierChar c = true := by
  rw [isIdentifierChar, hc, Bool.true_or]

theorem isIdentifierChar_toUpper (hc : isIdentifierChar c = true) :
    isIdentifierChar c.toUpper = true := by
  rw [isIdentifierChar, Bool.or_eq_true, decide_eq_true_eq] at hc
  rcases hc with hc | rfl
  · exact isIdentifierChar_of_alphanumeric (isAsciiAlphanumeric_toUpper hc)
  · decide

theorem IsWord.lowerWord (h : IsWord word) : IsWord (lowerWord word) where
  ne_nil := by simpa [Name.lowerWord] using h.ne_nil
  alphanumeric := by
    intro c hc
    obtain ⟨d, hd, rfl⟩ := List.mem_map.mp hc
    exact isAsciiAlphanumeric_toLower (h.alphanumeric d hd)

theorem IsWord.capitalize (h : IsWord word) : IsWord (capitalize word) := by
  obtain ⟨c, rest, rfl⟩ := List.exists_cons_of_ne_nil h.ne_nil
  refine ⟨by simp [Name.capitalize], fun d hd => ?_⟩
  rcases List.mem_cons.mp hd with rfl | hd
  · exact isAsciiAlphanumeric_toUpper (h.alphanumeric c List.mem_cons_self)
  · obtain ⟨e, he, rfl⟩ := List.mem_map.mp hd
    exact isAsciiAlphanumeric_toLower (h.alphanumeric e (List.mem_cons_of_mem c he))

section

variable (hwords : splitWords t ≠ [])
include hwords

theorem isWord_toCamel : IsWord (toCamel t) := by
  obtain ⟨first, rest, hsplit⟩ := List.exists_cons_of_ne_nil hwords
  have hword : ∀ word ∈ first :: rest, IsWord word := fun word hmem =>
    isWord_of_mem_splitWords (hsplit ▸ hmem)
  have hfirst := (hword first List.mem_cons_self).lowerWord
  simp only [toCamel, hsplit]
  refine ⟨by simp [hfirst.ne_nil], fun c hc => ?_⟩
  rcases List.mem_append.mp hc with hc | hc
  · exact hfirst.alphanumeric c hc
  · obtain ⟨capital, hcapital, hmem⟩ := List.mem_flatten.mp hc
    obtain ⟨word, hmem', rfl⟩ := List.mem_map.mp hcapital
    exact (hword word (List.mem_cons_of_mem first hmem')).capitalize.alphanumeric c hmem

theorem isWord_toPascal : IsWord (toPascal t) := by
  have hcamel := isWord_toCamel hwords
  obtain ⟨c, rest, heq⟩ := List.exists_cons_of_ne_nil hcamel.ne_nil
  rw [heq] at hcamel
  have hc := hcamel.alphanumeric c List.mem_cons_self
  rw [toPascal, heq, upperFirst, upperChar_of_alphanumeric hc]
  refine ⟨by simp, fun d hd => ?_⟩
  rcases List.mem_cons.mp hd with rfl | hd
  · exact isAsciiAlphanumeric_toUpper hc
  · exact hcamel.alphanumeric d (List.mem_cons_of_mem c hd)

theorem toSnake_ne_nil : toSnake t ≠ [] := by
  obtain ⟨first, rest, hsplit⟩ := List.exists_cons_of_ne_nil hwords
  have hfirst : IsWord (lowerWord first) :=
    (isWord_of_mem_splitWords (hsplit ▸ List.mem_cons_self)).lowerWord
  rw [toSnake, hsplit, List.map_cons]
  cases rest with
  | nil => simpa [join] using hfirst.ne_nil
  | cons second rest =>
    rw [List.map_cons, join_cons_cons]
    simp [hfirst.ne_nil]

end

theorem isIdentifierChar_of_mem_toSnake (hc : c ∈ toSnake t) : isIdentifierChar c = true := by
  rcases mem_join hc with hsep | ⟨small, hsmall, hmem⟩
  · rw [List.mem_singleton.mp hsep]
    decide
  · obtain ⟨word, hword, rfl⟩ := List.mem_map.mp hsmall
    exact isIdentifierChar_of_alphanumeric
      ((isWord_of_mem_splitWords hword).lowerWord.alphanumeric c hmem)

/-- Every style but the one with hyphens keeps to letters, digits and underscores. -/
theorem convert_of_splitWords {style : Style} (hstyle : style ≠ .kebab) (hwords : splitWords t ≠ []) :
    convert style t ≠ [] ∧ ∀ c ∈ convert style t, isIdentifierChar c = true := by
  cases style with
  | kebab => exact absurd rfl hstyle
  | snake => exact ⟨toSnake_ne_nil hwords, fun c hc => isIdentifierChar_of_mem_toSnake hc⟩
  | camel =>
    have h := isWord_toCamel hwords
    exact ⟨h.ne_nil, fun c hc => isIdentifierChar_of_alphanumeric (h.alphanumeric c hc)⟩
  | pascal =>
    have h := isWord_toPascal hwords
    exact ⟨h.ne_nil, fun c hc => isIdentifierChar_of_alphanumeric (h.alphanumeric c hc)⟩
  | screaming =>
    refine ⟨by simpa [convert, toScreaming] using toSnake_ne_nil hwords, fun c hc => ?_⟩
    obtain ⟨d, hd, rfl⟩ := List.mem_map.mp hc
    exact isIdentifierChar_toUpper (isIdentifierChar_of_mem_toSnake hd)

end Stencil.Name
