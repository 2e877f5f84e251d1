import Mathlib.Data.List.Infix
import Stencil.Proofs.Text.Cut
import Stencil.Proofs.Text.Lines
import Stencil.Text.Case

namespace Stencil.Text

section

variable {c m : Char}

theorem toLower_of_not_ascii (hc : ¬ c.toNat < 0x80) : c.toLower = c := by
  unfold Char.toLower
  rw [dif_neg]
  rintro ⟨-, hle⟩
  have hz : c.toNat ≤ 'Z'.toNat := UInt32.le_iff_toNat_le.mp hle
  have : 'Z'.toNat < 0x80 := by decide
  omega

/-- Of characters and their small letters a fact can be seen from the ASCII ones alone. -/
theorem forall_toLower {p : Char → Char → Prop}
    (hascii : ∀ n < 0x80, p (Char.ofNat n) (Char.ofNat n).toLower) (hself : ∀ c, p c c) (c : Char) :
    p c c.toLower := by
  by_cases hc : c.toNat < 0x80
  · simpa only [Char.ofNat_toNat] using hascii c.toNat hc
  · rw [toLower_of_not_ascii hc]
    exact hself c

theorem isBlankChar_toLower (c : Char) : isBlankChar c.toLower = isBlankChar c :=
  forall_toLower (p := fun c d => isBlankChar d = isBlankChar c) (by decide) (fun _ => rfl) c

theorem toLower_toLower (c : Char) : c.toLower.toLower = c.toLower := by
  by_cases hc : c.toNat < 0x80
  · have hall : ∀ n < 0x80, (Char.ofNat n).toLower.toLower = (Char.ofNat n).toLower := by decide
    simpa only [Char.ofNat_toNat] using hall c.toNat hc
  · rw [toLower_of_not_ascii hc, toLower_of_not_ascii hc]

theorem toNat_toLower_lt (hc : c.toNat < 0x80) : c.toLower.toNat < 0x80 := by
  have hall : ∀ n < 0x80, (Char.ofNat n).toLower.toNat < 0x80 := by decide
  simpa only [Char.ofNat_toNat] using hall c.toNat hc

/-- A mark is the small letter of no other character. -/
def IsMark (m : Char) : Prop :=
  ∀ c : Char, c.toLower = m ↔ c = m

theorem isMark_of_forall (h : ∀ n < 0x80, (Char.ofNat n).toLower = m → Char.ofNat n = m)
    (hself : m.toLower = m) : IsMark m := by
  intro c
  constructor
  · exact forall_toLower (p := fun c d => d = m → c = m) h (fun _ h => h) c
  · rintro rfl
    exact hself

theorem isMark_slash : IsMark '/' := isMark_of_forall (by decide) (by decide)

theorem isMark_colon : IsMark ':' := isMark_of_forall (by decide) (by decide)

theorem isMark_star : IsMark '*' := isMark_of_forall (by decide) (by decide)

end

/-- Holds ASCII characters only. -/
def IsAscii (t : Text) : Prop :=
  ∀ c ∈ t, c.toNat < 0x80

instance (t : Text) : Decidable (IsAscii t) :=
  List.decidableBAll (fun c : Char => c.toNat < 0x80) t

section

variable {s t : Text} {c m : Char}

theorem isAscii_append : IsAscii (s ++ t) ↔ IsAscii s ∧ IsAscii t :=
  List.forall_mem_append

theorem isAscii_cons : IsAscii (c :: t) ↔ c.toNat < 0x80 ∧ IsAscii t :=
  List.forall_mem_cons

theorem IsAscii.of_subset (h : IsAscii t) (hs : s ⊆ t) : IsAscii s :=
  fun c hc => h c (hs hc)

theorem strip_subset (t : Text) : strip t ⊆ t :=
  trim_subset isBlankChar t

theorem IsAscii.lowerFrom_eq_map (h : IsAscii t) (inWord : Bool) :
    lowerFrom inWord t = t.map Char.toLower := by
  induction t generalizing inWord with
  | nil => rfl
  | cons c t ih =>
    obtain ⟨hc, ht⟩ := isAscii_cons.mp h
    rw [lowerFrom, if_pos hc, ih ht, List.map_cons]

/-- What is behind an ASCII text makes no difference to its small letters. -/
theorem IsAscii.exists_lowerFrom_append (h : IsAscii s) (inWord : Bool) (t : Text) :
    ∃ inWord', lowerFrom inWord (s ++ t) = s.map Char.toLower ++ lowerFrom inWord' t := by
  induction s generalizing inWord with
  | nil => exact ⟨inWord, rfl⟩
  | cons c s ih =>
    obtain ⟨hc, hs⟩ := isAscii_cons.mp h
    obtain ⟨inWord', hrest⟩ := ih hs (if isCaseIgnorable c then inWord else isCased c)
    exact ⟨inWord', by rw [List.cons_append, lowerFrom, if_pos hc, hrest, List.map_cons]; rfl⟩

theorem IsAscii.lower_eq_map (h : IsAscii t) : lower t = t.map Char.toLower :=
  h.lowerFrom_eq_map false

theorem IsAscii.lower (h : IsAscii t) : IsAscii (lower t) := by
  rw [h.lower_eq_map]
  intro c hc
  obtain ⟨d, hd, rfl⟩ := List.mem_map.mp hc
  exact toNat_toLower_lt (h d hd)

theorem IsAscii.isVisible_lower (h : IsAscii t) (hv : IsVisible t) : IsVisible (Text.lower t) := by
  rw [h.lower_eq_map]
  intro c hc
  obtain ⟨d, hd, rfl⟩ := List.mem_map.mp hc
  rw [isBlankChar_toLower, hv d hd]

theorem IsAscii.lower_lower (h : IsAscii t) : Text.lower (Text.lower t) = Text.lower t := by
  rw [h.lower.lower_eq_map, h.lower_eq_map, List.map_map]
  exact List.map_congr_left fun c _ => toLower_toLower c

theorem IsAscii.lower_append (hs : IsAscii s) (ht : IsAscii t) :
    Text.lower (s ++ t) = Text.lower s ++ Text.lower t := by
  rw [(isAscii_append.mpr ⟨hs, ht⟩).lower_eq_map, hs.lower_eq_map, ht.lower_eq_map, List.map_append]

theorem IsAscii.lower_cons (hm : IsMark m) (hascii : m.toNat < 0x80) (ht : IsAscii t) :
    Text.lower (m :: t) = m :: Text.lower t := by
  rw [(isAscii_cons.mpr ⟨hascii, ht⟩).lower_eq_map, ht.lower_eq_map, List.map_cons, (hm m).mpr rfl]

theorem IsAscii.isEmpty_lower (h : IsAscii t) : (Text.lower t).isEmpty = t.isEmpty := by
  rw [h.lower_eq_map, List.isEmpty_map]

theorem IsAscii.mem_lower (h : IsAscii t) (hm : IsMark m) : m ∈ Text.lower t ↔ m ∈ t := by
  rw [h.lower_eq_map, List.mem_map]
  constructor
  · rintro ⟨c, hc, heq⟩
    exact (hm c).mp heq ▸ hc
  · exact fun hc => ⟨m, hc, (hm m).mpr rfl⟩

theorem IsAscii.count_lower (h : IsAscii t) (hm : IsMark m) :
    (Text.lower t).count m = t.count m := by
  rw [h.lower_eq_map, List.count, List.countP_map]
  refine List.countP_congr fun c _ => ?_
  simp only [Function.comp_apply, beq_iff_eq]
  exact hm c

theorem IsAscii.singleton_suffix_lower (h : IsAscii t) (hm : IsMark m) :
    [m] <:+ Text.lower t ↔ [m] <:+ t := by
  rw [List.singleton_suffix_iff_getLast?_eq_some, List.singleton_suffix_iff_getLast?_eq_some,
    h.lower_eq_map, List.getLast?_map, Option.map_eq_some_iff]
  constructor
  · rintro ⟨c, hc, heq⟩
    exact (hm c).mp heq ▸ hc
  · exact fun hc => ⟨m, hc, (hm m).mpr rfl⟩

theorem IsAscii.strip_lower (h : IsAscii t) : strip (Text.lower t) = Text.lower (strip t) := by
  rw [h.lower_eq_map, (h.of_subset (strip_subset t)).lower_eq_map]
  have hblank : isBlankChar ∘ Char.toLower = isBlankChar := funext isBlankChar_toLower
  simp only [strip, trim, trimEnd, List.dropWhile_map, ← List.map_reverse, hblank]

theorem IsAscii.cut?_lower (h : IsAscii t) (hm : IsMark m) :
    cut? [m] (Text.lower t) =
      (cut? [m] t).map fun (left, right) => (Text.lower left, Text.lower right) := by
  cases hcut : cut? [m] t with
  | none =>
    rw [Option.map_none, cut?_singleton_eq_none_iff, h.mem_lower hm, ← cut?_singleton_eq_none_iff]
    exact hcut
  | some sides =>
    obtain ⟨left, right⟩ := sides
    obtain ⟨rfl, hleft⟩ := cut?_singleton_eq_some_iff.mp hcut
    obtain ⟨hl, hrest⟩ := isAscii_append.mp h
    obtain ⟨hascii, hr⟩ := isAscii_cons.mp hrest
    rw [Option.map_some, cut?_singleton_eq_some_iff, hl.lower_append hrest,
      IsAscii.lower_cons hm hascii hr, hl.mem_lower hm]
    exact ⟨rfl, hleft⟩

end

end Stencil.Text
