import Stencil.Helper.Table
import Stencil.Proofs.Language.Identifiers
import Stencil.Proofs.Name.Styles

namespace Stencil

namespace Name

open Text

variable {s t word : Text} {a b c d : Char} {words : List Text}

def isAsciiLetter (c : Char) : Bool :=
  isAsciiUpper c || isAsciiLower c

/-- Two words of which nothing tells where the second begins when both are capitalized: a single
letter, and a word that begins with a letter behind which no other letter stands. -/
def runTogether : Text → Text → Bool
  | [a], b :: t => isAsciiLetter a && isAsciiLetter b && !t.head?.any isAsciiLetter
  | _, _ => false

/-- A digit in front of a letter. -/
def isNumbered (a b : Char) : Bool :=
  isAsciiDigit a && isAsciiLetter b

/-- The words of a name can be read back from the name that a style makes of them. -/
def Recovers : Style → List Text → Prop
  | .snake, _ => True
  | .kebab, _ => True
  | .camel, words => words.tail.IsChain fun w v => runTogether w v = false
  | .pascal, words => words.IsChain fun w v => runTogether w v = false
  | .screaming, words => ∀ word ∈ words, word.IsChain fun a b => isNumbered a b = false

/-- Every capital but one in front begins a word. -/
def CapitalsBeginWords : Text → Prop
  | a :: b :: t => (isAsciiUpper b = true → endsWord a b t = true) ∧ CapitalsBeginWords (b :: t)
  | _ => True

/-- Capitalized words, one behind the other. -/
def inCapitals (words : List Text) : Text :=
  (words.map capitalize).flatten

/-- A small word followed by capitalized ones. -/
def inHumps : List Text → Text
  | [] => []
  | word :: words => lowerWord word ++ inCapitals words

theorem toCamel_eq_inHumps (t : Text) : toCamel t = inHumps (splitWords t) := by
  rw [toCamel]
  cases splitWords t <;> rfl

theorem inCapitals_cons (word : Text) (words : List Text) :
    inCapitals (word :: words) = capitalize word ++ inCapitals words := by
  rw [inCapitals, List.map_cons, List.flatten_cons, inCapitals]

theorem toLower_eq_self_iff (hc : isAsciiAlphanumeric c = true) :
    c.toLower = c ↔ isAsciiUpper c = false :=
  forall_alphanumeric (q := fun c => c.toLower = c ↔ isAsciiUpper c = false) (by decide) hc

theorem toUpper_eq_self_iff (hc : isAsciiAlphanumeric c = true) :
    c.toUpper = c ↔ isAsciiLower c = false :=
  forall_alphanumeric (q := fun c => c.toUpper = c ↔ isAsciiLower c = false) (by decide) hc

theorem isAsciiUpper_of_endsWord (h : endsWord a b t = true) : isAsciiUpper b = true := by
  simp only [endsWord, Bool.or_eq_true, Bool.and_eq_true] at h
  rcases h with h | h
  · exact h.2
  · exact h.1.2

theorem isAsciiLower_of_isAsciiUpper (hc : isAsciiUpper c = true) : isAsciiLower c = false := by
  by_contra hlower
  rw [isAsciiUpper_of_isAsciiLower (by simpa using hlower)] at hc
  cases hc

/-- In front of a cut the next word is capitalized, and elsewhere it goes on in small letters. -/
theorem inHumps_cutRun_cons_cons (a b : Char) (t : Text) :
    inHumps (cutRun (a :: b :: t)) = a.toLower ::
      if endsWord a b t then inCapitals (cutRun (b :: t)) else inHumps (cutRun (b :: t)) := by
  obtain ⟨word, words, hcut⟩ := exists_cutRun_cons b t
  rw [cutRun]
  split
  next => rfl
  next =>
    rw [hcut]
    rfl

theorem inCapitals_cutRun_cons_cons (a b : Char) (t : Text) :
    inCapitals (cutRun (a :: b :: t)) = a.toUpper ::
      if endsWord a b t then inCapitals (cutRun (b :: t)) else inHumps (cutRun (b :: t)) := by
  obtain ⟨word, words, hcut⟩ := exists_cutRun_cons b t
  rw [cutRun]
  split
  next => rfl
  next =>
    rw [hcut]
    rfl

/-- A run is read back as it stands if its capitals begin words and its first letter is of the right
kind. -/
theorem cutRun_restored_iff (h : ∀ c ∈ t, isAsciiAlphanumeric c = true) :
    (inHumps (cutRun t) = t ↔ (∀ c ∈ t.head?, isAsciiUpper c = false) ∧ CapitalsBeginWords t) ∧
      (inCapitals (cutRun t) = t ↔
        (∀ c ∈ t.head?, isAsciiLower c = false) ∧ CapitalsBeginWords t) := by
  induction t with
  | nil => simp [cutRun, inHumps, inCapitals, CapitalsBeginWords]
  | cons a t ih =>
    have ha := h a List.mem_cons_self
    cases t with
    | nil =>
      simp [cutRun, inHumps, inCapitals, lowerWord, capitalize, CapitalsBeginWords,
        toLower_eq_self_iff ha, toUpper_eq_self_iff ha]
    | cons b t =>
      obtain ⟨hhumps, hcapitals⟩ := ih fun c hc => h c (List.mem_cons_of_mem a hc)
      have hrest : (if endsWord a b t then inCapitals (cutRun (b :: t))
          else inHumps (cutRun (b :: t))) = b :: t ↔ CapitalsBeginWords (a :: b :: t) := by
        rw [CapitalsBeginWords]
        split
        next hends =>
          have hb := isAsciiLower_of_isAsciiUpper (isAsciiUpper_of_endsWord hends)
          simp [hcapitals, hb, hends]
        next hends => simp [hhumps, hends]
      rw [inHumps_cutRun_cons_cons, inCapitals_cutRun_cons_cons, List.cons_eq_cons,
        List.cons_eq_cons, hrest, toLower_eq_self_iff ha, toUpper_eq_self_iff ha]
      simp

/-- Behind small letters and digits a capital begins a word. -/
theorem IsSmall.capitalsBeginWords_append (h : IsSmall s) (t : Text) :
    CapitalsBeginWords (s ++ t) ↔ CapitalsBeginWords t := by
  obtain ⟨⟨hne, halpha⟩, hupper⟩ := h
  induction s with
  | nil => exact absurd rfl hne
  | cons a s ih =>
    have ha : isSmallOrDigit a = true := by
      have hletter := halpha a List.mem_cons_self
      rw [isAsciiAlphanumeric, hupper a List.mem_cons_self] at hletter
      simpa [isSmallOrDigit] using hletter
    cases s with
    | nil =>
      cases t with
      | nil => simp [CapitalsBeginWords]
      | cons b t =>
        rw [List.singleton_append, CapitalsBeginWords]
        exact and_iff_right fun hb => by rw [endsWord, ha, hb]; rfl
    | cons b s =>
      have hrest := ih (fun c hc => hupper c (List.mem_cons_of_mem a hc)) (List.cons_ne_nil b s)
        fun c hc => halpha c (List.mem_cons_of_mem a hc)
      have hb := hupper b (by simp)
      rw [← hrest, List.cons_append, List.cons_append, CapitalsBeginWords]
      simp [hb]

theorem head?_inCapitals_not_lower (h : ∀ word ∈ words, IsWord word) :
    ∀ c ∈ (inCapitals words).head?, isAsciiLower c = false := by
  cases words with
  | nil => simp [inCapitals]
  | cons word words =>
    have hword := h word List.mem_cons_self
    obtain ⟨c, rest, rfl⟩ := List.exists_cons_of_ne_nil hword.ne_nil
    simp only [inCapitals_cons, capitalize, List.cons_append, List.head?_cons, Option.mem_def,
      Option.some.injEq, forall_eq']
    exact forall_alphanumeric (q := fun c => isAsciiLower c.toUpper = false) (by decide)
      (hword.alphanumeric c List.mem_cons_self)

/-- A capitalized letter is told apart from a capitalized word behind it unless the two run
together. -/
theorem endsWord_capitals (hc : isAsciiAlphanumeric c = true) (hword : IsWord (d :: s))
    (hwords : ∀ word ∈ words, IsWord word) :
    (isAsciiUpper d.toUpper = true →
        endsWord c.toUpper d.toUpper (lowerWord s ++ inCapitals words) = true) ↔
      runTogether [c] (d :: s) = false := by
  have hfirst : isSmallOrDigit c.toUpper = !isAsciiLetter c ∧
      isAsciiUpper c.toUpper = isAsciiLetter c :=
    forall_alphanumeric (q := fun c => isSmallOrDigit c.toUpper = !isAsciiLetter c ∧
      isAsciiUpper c.toUpper = isAsciiLetter c) (by decide) hc
  have hd : isAsciiUpper d.toUpper = isAsciiLetter d :=
    forall_alphanumeric (q := fun c => isAsciiUpper c.toUpper = isAsciiLetter c) (by decide)
      (hword.alphanumeric d List.mem_cons_self)
  have hbehind : (((lowerWord s ++ inCapitals words).head?.map isAsciiLower).getD false) =
      s.head?.any isAsciiLetter := by
    cases s with
    | nil =>
      have hhead := head?_inCapitals_not_lower hwords
      cases hcapitals : (inCapitals words).head? with
      | none => simp [lowerWord, hcapitals]
      | some e => simpa [lowerWord, hcapitals] using hhead e hcapitals
    | cons e s =>
      have he : isAsciiLower e.toLower = isAsciiLetter e :=
        forall_alphanumeric (q := fun c => isAsciiLower c.toLower = isAsciiLetter c) (by decide)
          (hword.alphanumeric e (by simp))
      simpa [lowerWord] using he
  rw [endsWord, hfirst.1, hfirst.2, hd, hbehind, runTogether]
  cases isAsciiLetter c <;> cases isAsciiLetter d <;> cases s.head?.any isAsciiLetter <;> decide

theorem capitalsBeginWords_inCapitals_iff (h : ∀ word ∈ words, IsWord word) :
    CapitalsBeginWords (inCapitals words) ↔
      words.IsChain fun w v => runTogether w v = false := by
  induction words with
  | nil => simp [inCapitals, CapitalsBeginWords]
  | cons word words ih =>
    have hword := h word List.mem_cons_self
    have hwords := fun other hmem => h other (List.mem_cons_of_mem word hmem)
    have hrest := ih hwords
    rw [inCapitals_cons]
    match word with
    | [] => exact absurd rfl hword.ne_nil
    | [c] =>
      have hc := hword.alphanumeric c List.mem_cons_self
      match words with
      | [] => simp [capitalize, lowerWord, inCapitals, CapitalsBeginWords]
      | [] :: words => exact absurd rfl (hwords [] List.mem_cons_self).ne_nil
      | (d :: s) :: words =>
        have hpair := endsWord_capitals hc (hwords (d :: s) List.mem_cons_self)
          fun other hmem => hwords other (List.mem_cons_of_mem _ hmem)
        rw [List.isChain_cons_cons, ← hpair, ← hrest, inCapitals_cons]
        rfl
    | c :: e :: rest =>
      have hsmall : IsSmall (lowerWord (e :: rest)) :=
        IsWord.isSmall_lowerWord
          ⟨List.cons_ne_nil e rest, fun d hd => hword.alphanumeric d (List.mem_cons_of_mem c hd)⟩
      have he := hsmall.not_upper e.toLower (by simp [lowerWord])
      have hfirst : CapitalsBeginWords (capitalize (c :: e :: rest) ++ inCapitals words) ↔
          CapitalsBeginWords (lowerWord (e :: rest) ++ inCapitals words) := by
        rw [capitalize, lowerWord, List.map_cons, List.cons_append, List.cons_append,
          CapitalsBeginWords]
        simp [he]
      rw [hfirst, hsmall.capitalsBeginWords_append, hrest]
      cases words with
      | nil => simp
      | cons next words =>
        rw [List.isChain_cons_cons]
        exact (and_iff_right rfl).symm

theorem toPascal_eq_inCapitals (t : Text) : toPascal t = inCapitals (splitWords t) := by
  rw [toPascal, toCamel_eq_inHumps]
  cases hwords : splitWords t with
  | nil => rfl
  | cons word words =>
    have hword : IsWord word := isWord_of_mem_splitWords (hwords ▸ List.mem_cons_self)
    obtain ⟨c, rest, rfl⟩ := List.exists_cons_of_ne_nil hword.ne_nil
    have hc := hword.alphanumeric c List.mem_cons_self
    rw [inHumps, inCapitals_cons, lowerWord, List.map_cons, List.cons_append, upperFirst,
      upperChar_of_alphanumeric (isAsciiAlphanumeric_toLower hc), toUpper_toLower hc]
    rfl

theorem IsWord.splitWords_eq (h : IsWord word) : splitWords word = cutRun word := by
  rw [splitWords_eq_flatMap_cutRun, h.runs_eq, List.flatMap_singleton]

theorem isWord_of_mem_words (hwords : splitWords t = words) : ∀ word ∈ words, IsWord word :=
  fun _ hmem => isWord_of_mem_splitWords (hwords ▸ hmem)

theorem toPascal_toPascal_iff (t : Text) :
    toPascal (toPascal t) = toPascal t ↔ Recovers .pascal (splitWords t) := by
  rw [Recovers, ← capitalsBeginWords_inCapitals_iff (isWord_of_mem_words rfl)]
  by_cases hwords : splitWords t = []
  · have hnil : toPascal t = [] := by rw [toPascal_eq_inCapitals, hwords]; rfl
    rw [hnil, hwords]
    exact iff_of_true rfl trivial
  · have hword := isWord_toPascal hwords
    have hhead := head?_inCapitals_not_lower (isWord_of_mem_words (t := t) rfl)
    rw [toPascal_eq_inCapitals (toPascal t), hword.splitWords_eq,
      (cutRun_restored_iff hword.alphanumeric).2, toPascal_eq_inCapitals]
    exact and_iff_right hhead

theorem toCamel_toCamel_iff (t : Text) :
    toCamel (toCamel t) = toCamel t ↔ Recovers .camel (splitWords t) := by
  rw [Recovers]
  cases hwords : splitWords t with
  | nil =>
    have hnil : toCamel t = [] := by rw [toCamel_eq_inHumps, hwords]; rfl
    rw [hnil]
    exact iff_of_true rfl .nil
  | cons word words =>
    have hmem := isWord_of_mem_words hwords
    have hsmall := (hmem word List.mem_cons_self).isSmall_lowerWord
    have hword : IsWord (toCamel t) := isWord_toCamel (by simp [hwords])
    have hcamel : toCamel t = lowerWord word ++ inCapitals words := by
      rw [toCamel_eq_inHumps, hwords, inHumps]
    have hhead : ∀ c ∈ (toCamel t).head?, isAsciiUpper c = false := by
      intro c hc
      rw [hcamel, List.head?_append_of_ne_nil _ hsmall.ne_nil] at hc
      exact hsmall.not_upper c (List.mem_of_mem_head? hc)
    rw [toCamel_eq_inHumps (toCamel t), hword.splitWords_eq,
      (cutRun_restored_iff hword.alphanumeric).1, and_iff_right hhead, hcamel,
      hsmall.capitalsBeginWords_append,
      capitalsBeginWords_inCapitals_iff fun other h => hmem other (List.mem_cons_of_mem word h)]
    rfl

/-- A word in capitals. -/
def upperWord (word : Text) : Text :=
  word.map Char.toUpper

theorem toScreaming_eq_join (t : Text) :
    toScreaming t = join "_" ((splitWords t).map upperWord) := by
  have hjoin : ∀ words : List Text, (∀ word ∈ words, IsWord word) →
      (join "_" (words.map lowerWord)).map Char.toUpper = join "_" (words.map upperWord) := by
    intro words h
    induction words with
    | nil => rfl
    | cons word words ih =>
      have hword : (lowerWord word).map Char.toUpper = upperWord word := by
        rw [lowerWord, List.map_map, upperWord]
        exact List.map_congr_left fun c hc =>
          toUpper_toLower ((h word List.mem_cons_self).alphanumeric c hc)
      have hrest := ih fun other hmem => h other (List.mem_cons_of_mem word hmem)
      cases words with
      | nil => simpa [join] using hword
      | cons next words =>
        simp only [List.map_cons, join_cons_cons, List.map_append, hword] at hrest ⊢
        rw [hrest]
        rfl
  exact hjoin _ (isWord_of_mem_words rfl)

theorem IsWord.upperWord (h : IsWord word) : IsWord (upperWord word) where
  ne_nil := by simpa [Name.upperWord] using h.ne_nil
  alphanumeric := by
    intro c hc
    obtain ⟨d, hd, rfl⟩ := List.mem_map.mp hc
    exact isAsciiAlphanumeric_toUpper (h.alphanumeric d hd)

theorem upperWord_of_mem_cutRun (h : IsWord word) (hmem : s ∈ cutRun (upperWord word)) :
    upperWord s = s := by
  have hsub : ∀ c ∈ s, c ∈ upperWord word := fun c hc => by
    rw [← flatten_cutRun (upperWord word)]
    exact List.mem_flatten_of_mem hmem hc
  have hself : ∀ c ∈ s, c.toUpper = c := by
    intro c hc
    obtain ⟨d, hd, rfl⟩ := List.mem_map.mp (hsub c hc)
    exact forall_alphanumeric (q := fun c => c.toUpper.toUpper = c.toUpper) (by decide)
      (h.alphanumeric d hd)
  exact (List.map_congr_left hself).trans (List.map_id s)

/-- A word in capitals is cut behind a digit and nowhere else. -/
theorem cutRun_upperWord_iff (h : IsWord word) :
    cutRun (upperWord word) = [upperWord word] ↔ word.IsChain fun a b => isNumbered a b = false := by
  obtain ⟨hne, halpha⟩ := h
  induction word with
  | nil => exact absurd rfl hne
  | cons a word ih =>
    cases word with
    | nil => exact iff_of_true rfl (.singleton a)
    | cons b word =>
      have hrest := ih (List.cons_ne_nil b word) fun c hc => halpha c (List.mem_cons_of_mem a hc)
      have hends : endsWord a.toUpper b.toUpper (upperWord word) = isNumbered a b := by
        have hb : isAsciiUpper b.toUpper = isAsciiLetter b :=
          forall_alphanumeric (q := fun c => isAsciiUpper c.toUpper = isAsciiLetter c) (by decide)
            (halpha b (by simp))
        have ha : isSmallOrDigit a.toUpper = isAsciiDigit a :=
          forall_alphanumeric (q := fun c => isSmallOrDigit c.toUpper = isAsciiDigit c) (by decide)
            (halpha a List.mem_cons_self)
        have hbehind : ((upperWord word).head?.map isAsciiLower).getD false = false := by
          cases word with
          | nil => rfl
          | cons c word =>
            exact forall_alphanumeric (q := fun c => isAsciiLower c.toUpper = false) (by decide)
              (halpha c (by simp))
        rw [endsWord, ha, hb, hbehind, Bool.and_false, Bool.or_false, isNumbered]
      obtain ⟨first, others, hcut⟩ := exists_cutRun_cons b.toUpper (upperWord word)
      have hwhole : upperWord (a :: b :: word) = a.toUpper :: b.toUpper :: upperWord word := rfl
      have hshort : upperWord (b :: word) = b.toUpper :: upperWord word := rfl
      rw [List.isChain_cons_cons, ← hrest, hwhole, cutRun, hends, hshort, hcut]
      cases isNumbered a b <;> simp

/-- Words that are cut again stay the same only if none of them is cut. -/
theorem flatMap_cutRun_eq_self_iff (h : ∀ word ∈ words, IsWord word) :
    words.flatMap cutRun = words ↔ ∀ word ∈ words, cutRun word = [word] := by
  induction words with
  | nil => simp
  | cons word words ih =>
    have hrest := ih fun other hmem => h other (List.mem_cons_of_mem word hmem)
    rw [List.flatMap_cons, List.forall_mem_cons, ← hrest]
    constructor
    · intro heq
      obtain ⟨a, t, rfl⟩ := List.exists_cons_of_ne_nil (h word List.mem_cons_self).ne_nil
      obtain ⟨first, others, hcut⟩ := exists_cutRun_cons a t
      rw [hcut, List.cons_append, List.cons_eq_cons] at heq
      obtain ⟨hfirst, heq⟩ := heq
      have hflat : others.flatten = [] := by
        have hwhole := flatten_cutRun (a :: t)
        rw [hcut, List.flatten_cons, hfirst] at hwhole
        exact List.append_cancel_left (hwhole.trans (List.append_nil _).symm)
      have hothers : others = [] := by
        refine List.eq_nil_iff_forall_not_mem.mpr fun other hmem => ?_
        have hmem' : other ∈ cutRun (a :: t) := hcut ▸ List.mem_cons_of_mem _ hmem
        exact ne_nil_of_mem_cutRun hmem' (List.flatten_eq_nil_iff.mp hflat other hmem)
      subst hothers
      exact ⟨by rw [hcut, hfirst], heq⟩
    · rintro ⟨hword, heq⟩
      rw [hword, heq]
      rfl

theorem toScreaming_toScreaming_iff (t : Text) :
    toScreaming (toScreaming t) = toScreaming t ↔ Recovers .screaming (splitWords t) := by
  have hwords := isWord_of_mem_words (t := t) rfl
  have hupper : ∀ word ∈ (splitWords t).map upperWord, IsWord word := by
    intro word hmem
    obtain ⟨small, hsmall, rfl⟩ := List.mem_map.mp hmem
    exact (hwords small hsmall).upperWord
  have hpieces : ∀ piece ∈ ((splitWords t).map upperWord).flatMap cutRun,
      IsWord piece ∧ upperWord piece = piece := by
    intro piece hpiece
    obtain ⟨upper, hmem, hcut⟩ := List.mem_flatMap.mp hpiece
    obtain ⟨word, hword, rfl⟩ := List.mem_map.mp hmem
    exact ⟨isWord_of_mem_cutRun (hupper _ hmem).alphanumeric hcut,
      upperWord_of_mem_cutRun (hwords word hword) hcut⟩
  have hback : ∀ ws : List Text, (∀ word ∈ ws, IsWord word) → runs (join "_" ws) = ws :=
    fun ws h => runs_join (c := '_') (by decide) h
  have hread : splitWords (toScreaming t) = ((splitWords t).map upperWord).flatMap cutRun := by
    rw [toScreaming_eq_join, splitWords_eq_flatMap_cutRun, hback _ hupper]
  have hagain : toScreaming (toScreaming t) =
      join "_" (((splitWords t).map upperWord).flatMap cutRun) := by
    rw [toScreaming_eq_join (toScreaming t), hread]
    refine congrArg _ ?_
    exact (List.map_congr_left fun piece hpiece => (hpieces piece hpiece).2).trans (List.map_id _)
  rw [hagain, toScreaming_eq_join]
  have hjoin : join "_" (((splitWords t).map upperWord).flatMap cutRun) =
      join "_" ((splitWords t).map upperWord) ↔
      ((splitWords t).map upperWord).flatMap cutRun = (splitWords t).map upperWord := by
    refine ⟨fun heq => ?_, congrArg _⟩
    have hruns := congrArg runs heq
    rwa [hback _ fun piece hpiece => (hpieces piece hpiece).1, hback _ hupper] at hruns
  rw [hjoin, flatMap_cutRun_eq_self_iff hupper, List.forall_mem_map]
  exact forall₂_congr fun word hmem => cutRun_upperWord_iff (hwords word hmem)

/-- A style finds the words of its own names again exactly if these can be read back. -/
theorem convert_twice_iff (style : Style) (t : Text) :
    convert style (convert style t) = convert style t ↔ Recovers style (splitWords t) := by
  cases style with
  | snake =>
    have hread := splitWords_join_lowerWord (c := '_') (by decide) t
    exact iff_of_true (convert_of_small_words hread .snake) trivial
  | kebab =>
    have hread := splitWords_join_lowerWord (c := '-') (by decide) t
    exact iff_of_true (convert_of_small_words hread .kebab) trivial
  | camel => exact toCamel_toCamel_iff t
  | pascal => exact toPascal_toPascal_iff t
  | screaming => exact toScreaming_toScreaming_iff t

end Name

variable {t : Text} {l : Language}

open Name Text

theorem Sanitizer.clean_of_isWord (h : IsWord t) : Sanitizer.clean t = t := by
  have hkept : (t.map fun c => if Sanitizer.isNameChar c then c else '_') = t := by
    refine (List.map_congr_left fun c hc => if_pos ?_).trans (List.map_id t)
    rw [Sanitizer.isNameChar, h.alphanumeric c hc]
    rfl
  have hedge : ∀ c ∈ t, decide (c = '_' ∨ c = '-') = false := fun c hc =>
    forall_alphanumeric (q := fun c => decide (c = '_' ∨ c = '-') = false) (by decide)
      (h.alphanumeric c hc)
  have htrim : trim (fun c => c = '_' || c = '-') t = t :=
    trim_of_forall fun c hc => by simpa using hedge c hc
  rw [Sanitizer.clean, hkept, htrim]
  simp [h.ne_nil]

namespace Language

/-- Nothing is left of a name that gets an underscore. -/
theorem convert_eq_of_identifier_eq (h : IsWord t) (heq : l.identifier .pascal t = t) :
    convert .pascal t = t := by
  have hmark : ∀ c ∈ t, c ≠ '_' := fun c hc =>
    forall_alphanumeric (q := fun c => c ≠ '_') (by decide) (h.alphanumeric c hc)
  rw [identifier, Sanitizer.sanitize, Sanitizer.clean_of_isWord h] at heq
  split at heq
  next => exact absurd rfl (hmark '_' (heq ▸ by simp))
  next =>
    cases hpascal : convert .pascal t with
    | nil => rwa [hpascal] at heq
    | cons c rest =>
      rw [hpascal, Sanitizer.guardDigit] at heq
      split at heq
      next => exact absurd rfl (hmark '_' (heq ▸ by simp))
      next => exact heq

theorem identifier_eq_self_iff (h : IsWord t) :
    l.identifier .pascal t = t ↔ convert .pascal t = t ∧ l.Names t := by
  constructor
  · intro heq
    exact ⟨convert_eq_of_identifier_eq h heq, heq ▸ names_identifier l (by decide) t⟩
  · rintro ⟨hpascal, hident, hfree⟩
    obtain ⟨c, rest, rfl⟩ := List.exists_cons_of_ne_nil h.ne_nil
    have hguard : Sanitizer.guardDigit (c :: rest) = c :: rest := by
      rw [Sanitizer.guardDigit, if_neg (by simpa using hident.start c rfl)]
    have hreserved : l.sanitizer.isReserved (c :: rest) = false := by
      simpa [Sanitizer.isReserved] using hfree
    rw [identifier, Sanitizer.sanitize, Sanitizer.clean_of_isWord h, hpascal, hguard]
    simp [hreserved]

/-- Builtin types begin with small letters. -/
theorem isBuiltin_of_not_lower (h : ∀ c ∈ t.head?, isAsciiLower c = false) :
    l.sanitizer.isBuiltin t = false := by
  have hall : l.sanitizer.builtins.all (fun name => name.head?.any isAsciiLower) = true := by
    cases l <;> rfl
  by_contra hbuiltin
  have hmem : t ∈ l.sanitizer.builtins := by simpa [Sanitizer.isBuiltin] using hbuiltin
  have hstart := List.all_eq_true.mp hall t hmem
  cases hhead : t.head? with
  | none => simp [hhead] at hstart
  | some c => simp [hhead, h c hhead] at hstart

theorem upperFirst_toPascal (h : splitWords t ≠ []) : upperFirst (toPascal t) = toPascal t := by
  have hword := isWord_toPascal h
  have hhead := head?_inCapitals_not_lower (isWord_of_mem_words (t := t) rfl)
  rw [← toPascal_eq_inCapitals] at hhead
  obtain ⟨c, rest, heq⟩ := List.exists_cons_of_ne_nil hword.ne_nil
  rw [heq] at hhead hword ⊢
  have hc := hword.alphanumeric c List.mem_cons_self
  rw [upperFirst, upperChar_of_alphanumeric hc, (toUpper_eq_self_iff hc).mpr (hhead c rfl)]
  rfl

/-- A type keeps a capitalized name if its words can be read back and the language takes it. -/
theorem type_toPascal_iff (l : Language) (t : Text) :
    l.type (.text (toPascal t)) = toPascal t ↔
      splitWords t ≠ [] ∧
        (l = .plain ∨ Recovers .pascal (splitWords t) ∧ l.Names (toPascal t)) := by
  by_cases hwords : splitWords t = []
  · have hnil : toPascal t = [] := by rw [toPascal_eq_inCapitals, hwords]; rfl
    rw [hnil, hwords]
    exact iff_of_false (by cases l <;> decide) fun hne => hne.1 rfl
  · have hword := isWord_toPascal hwords
    have hname : typeName (.text (toPascal t)) = toPascal t := by
      simp [typeName, Value.truthy, hword.ne_nil]
    have hhead := head?_inCapitals_not_lower (isWord_of_mem_words (t := t) rfl)
    rw [← toPascal_eq_inCapitals] at hhead
    rw [type, hname, and_iff_right hwords]
    cases l with
    | plain =>
      rw [typeNamed, if_neg (by simp [hword.ne_nil])]
      exact iff_of_true (upperFirst_toPascal hwords) (Or.inl rfl)
    | go | python =>
      rw [typeNamed, if_neg (by simp [hword.ne_nil]), isBuiltin_of_not_lower hhead,
        if_neg Bool.false_ne_true, identifier_eq_self_iff hword]
      simp [convert, toPascal_toPascal_iff]

end Language

/-- The helpers that write a name in a style. -/
def Helper.styles : List (String × Style) :=
  [("snakeCase", .snake), ("kebab", .kebab), ("kebabCase", .kebab), ("camelCase", .camel),
    ("pascalCase", .pascal)]

/-- A style written again is the same exactly if the words can be read back from it: always with
underscores and hyphens between small words, in capitals if no digit stands in front of a letter in
a word, and without separators if no two words run together, the small one in front apart. A helper
for a style keeps the names of that style that can be read back, and no others; so does the type of a
language, if it may also be an identifier there. -/
theorem Name.convert_again_iff (t : Text) :
    (∀ style, convert style (convert style t) = convert style t ↔
        Recovers style (splitWords t)) ∧
      (∀ p ∈ Helper.styles, ∃ h, Helper.find? p.1 = some h ∧
        ∀ (e : Engine) (data : Value) (s : Session),
          (Helper.call e data h { values := [.text (convert p.2 t)] }).run s =
              (.ok (.markup (convert p.2 t)), s) ↔ Recovers p.2 (splitWords t)) ∧
      ∀ l : Language, l.type (.text (convert .pascal t)) = convert .pascal t ↔
        splitWords t ≠ [] ∧
          (l = .plain ∨ Recovers .pascal (splitWords t) ∧ l.Names (convert .pascal t)) := by
  refine ⟨fun style => convert_twice_iff style t, ?_, fun l => l.type_toPascal_iff t⟩
  have hmade (name : String) (style : Style) (e : Engine) (data : Value) (s : Session) :
      (Helper.call e data (Helper.ofText name fun _ => convert style)
          { values := [.text (convert style t)] }).run s = (.ok (.markup (convert style t)), s) ↔
        Recovers style (splitWords t) := by
    rw [← convert_twice_iff style t]
    have hrun : (Helper.call e data (Helper.ofText name fun _ => convert style)
        { values := [.text (convert style t)] }).run s =
        (.ok (.markup (convert style (convert style t))), s) := rfl
    rw [hrun]
    simp
  simp only [Helper.styles, List.forall_mem_cons]
  exact ⟨⟨_, rfl, hmade _ .snake⟩, ⟨_, rfl, hmade _ .kebab⟩, ⟨_, rfl, hmade _ .kebab⟩,
    ⟨_, rfl, hmade _ .camel⟩, ⟨_, rfl, hmade _ .pascal⟩, by simp⟩

/-- Single letters lose their boundaries (`aBC` becomes `aBc`), a digit in front of a letter gets one
(`A1B` becomes `A1_B`), and a type may not be called like a reserved word. -/
theorem Name.convert_again_changes :
    convert .camel (convert .camel "a_b_c") ≠ convert .camel "a_b_c" ∧
      convert .pascal (convert .pascal "a_b_c") ≠ convert .pascal "a_b_c" ∧
      convert .screaming (convert .screaming "a1b") ≠ convert .screaming "a1b" ∧
      Language.python.type (.text (convert .pascal "none")) ≠ convert .pascal "none" := by
  decide

end Stencil
