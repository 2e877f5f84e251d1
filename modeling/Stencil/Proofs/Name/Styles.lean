import Stencil.Proofs.Name.Cuts
import Stencil.Proofs.Text.Ascii

namespace Stencil.Name

open Text

variable {s t word : Text} {c : Char} {words : List Text}

theorem lowerWord_lowerWord (word : Text) : lowerWord (lowerWord word) = lowerWord word := by
  rw [lowerWord, lowerWord, List.map_map]
  exact List.map_congr_left fun c _ => toLower_toLower c

theorem toUpper_toLower (hc : isAsciiAlphanumeric c = true) : c.toLower.toUpper = c.toUpper :=
  forall_alphanumeric (q := fun c => c.toLower.toUpper = c.toUpper) (by decide) hc

theorem IsWord.capitalize_lowerWord (h : IsWord word) :
    Name.capitalize (Name.lowerWord word) = Name.capitalize word := by
  obtain ⟨c, rest, rfl⟩ := List.exists_cons_of_ne_nil h.ne_nil
  have hrest := lowerWord_lowerWord rest
  rw [Name.lowerWord, List.map_cons, Name.capitalize, Name.capitalize,
    toUpper_toLower (h.alphanumeric c List.mem_cons_self)]
  exact congrArg _ hrest

theorem not_upper_toLower (hc : isAsciiAlphanumeric c = true) : isAsciiUpper c.toLower = false :=
  forall_alphanumeric (q := fun c => isAsciiUpper c.toLower = false) (by decide) hc

/-- Without capitals there is nowhere to cut. -/
theorem cutRun_of_no_upper (hne : t ≠ []) (h : ∀ c ∈ t, isAsciiUpper c = false) :
    cutRun t = [t] := by
  fun_induction cutRun t with
  | case1 => exact absurd rfl hne
  | case2 a => rfl
  | case3 a b t hends ih =>
    have hb := h b (by simp)
    simp [endsWord, hb] at hends
  | case4 a b t _ hnil ih =>
    have hrest := ih (List.cons_ne_nil b t) fun c hc => h c (List.mem_cons_of_mem a hc)
    simp [hnil] at hrest
  | case5 a b t _ word words hcut ih =>
    have hrest := ih (List.cons_ne_nil b t) fun c hc => h c (List.mem_cons_of_mem a hc)
    rw [hcut] at hrest
    obtain ⟨rfl, rfl⟩ := List.cons.inj hrest
    rfl

/-- A word in small letters. -/
structure IsSmall (word : Text) : Prop extends IsWord word where
  not_upper : ∀ c ∈ word, isAsciiUpper c = false

theorem IsWord.isSmall_lowerWord (h : IsWord word) : IsSmall (Name.lowerWord word) where
  toIsWord := h.lowerWord
  not_upper := by
    intro c hc
    obtain ⟨d, hd, rfl⟩ := List.mem_map.mp hc
    exact not_upper_toLower (h.alphanumeric d hd)

theorem splitWords_join (hc : isAsciiAlphanumeric c = false) (h : ∀ word ∈ words, IsSmall word) :
    splitWords (join [c] words) = words := by
  rw [splitWords_eq_flatMap_cutRun, runs_join hc fun word hmem => (h word hmem).toIsWord]
  calc words.flatMap cutRun = words.flatMap fun word => [word] :=
        List.flatMap_congr fun word hmem =>
          cutRun_of_no_upper (h word hmem).ne_nil (h word hmem).not_upper
    _ = words := List.flatMap_singleton' words

/-- The small words of a text are all that is read back from them, whatever separates them. -/
theorem splitWords_join_lowerWord (hc : isAsciiAlphanumeric c = false) (t : Text) :
    splitWords (join [c] ((splitWords t).map lowerWord)) = (splitWords t).map lowerWord := by
  refine splitWords_join hc fun small hsmall => ?_
  obtain ⟨word, hword, rfl⟩ := List.mem_map.mp hsmall
  exact (isWord_of_mem_splitWords hword).isSmall_lowerWord

/-- A style makes the same of words as of the same words in small letters. -/
theorem convert_of_small_words (h : splitWords s = (splitWords t).map lowerWord) (style : Style) :
    convert style s = convert style t := by
  have hlower : (splitWords s).map lowerWord = (splitWords t).map lowerWord := by
    rw [h, List.map_map]
    exact List.map_congr_left fun word _ => lowerWord_lowerWord word
  have hsnake : toSnake s = toSnake t := by rw [toSnake, toSnake, hlower]
  have hcamel : toCamel s = toCamel t := by
    cases hwords : splitWords t with
    | nil => simp [toCamel, h, hwords]
    | cons word words =>
      have hcapitals : (words.map lowerWord).map capitalize = words.map capitalize := by
        rw [List.map_map]
        refine List.map_congr_left fun other hmem => ?_
        have hother : other ∈ splitWords t := hwords ▸ List.mem_cons_of_mem word hmem
        exact (isWord_of_mem_splitWords hother).capitalize_lowerWord
      simp only [toCamel, h, hwords, List.map_cons, lowerWord_lowerWord, hcapitals]
  cases style with
  | snake => exact hsnake
  | camel => exact hcamel
  | pascal => exact congrArg upperFirst hcamel
  | kebab => exact congrArg (join "-") hlower
  | screaming => exact congrArg (List.map Char.toUpper) hsnake

/-- Nothing that a style can show is lost on the way through small words with underscores or
hyphens between them. In particular writing these twice is writing them once. -/
theorem convert_through_small_words (t : Text) (style : Style) :
    convert style (toSnake t) = convert style t ∧ convert style (toKebab t) = convert style t ∧
      toSnake (toSnake t) = toSnake t ∧ toKebab (toKebab t) = toKebab t := by
  have hsnake : splitWords (toSnake t) = (splitWords t).map lowerWord :=
    splitWords_join_lowerWord (by decide) t
  have hkebab : splitWords (toKebab t) = (splitWords t).map lowerWord :=
    splitWords_join_lowerWord (by decide) t
  exact ⟨convert_of_small_words hsnake style, convert_of_small_words hkebab style,
    convert_of_small_words hsnake .snake, convert_of_small_words hkebab .kebab⟩

end Stencil.Name
