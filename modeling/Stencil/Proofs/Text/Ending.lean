import Stencil.Proofs.Text.Ascii
import Stencil.Proofs.Text.Case

namespace Stencil.Text

variable {s t ending : Text} {c d : Char} {inWord : Bool}

/-- Ends in a text that comes to the given one in ASCII small letters. -/
def EndsIgnoringCase (ending t : Text) : Prop :=
  ∃ stem rest, t = stem ++ rest ∧ rest.map Char.toLower = ending

/-- Of the ASCII characters only the letters `i` and `k` are also written for others: for a capital
with a dot and for the sign of a unit. -/
theorem lowerRuns_ascii : ∀ r ∈ lowerRuns,
    (0x80 : Int) ≤ r.first + r.shift ∨ r.first = r.last ∧ (r.first + r.shift : Int) = 'k'.toNat := by
  decide +kernel

theorem mapByRuns_lowerRuns {n : Nat} (hn : 0x80 ≤ n) :
    0x80 ≤ mapByRuns lowerRuns n ∨ mapByRuns lowerRuns n = 'k'.toNat := by
  rcases mapByRuns_cases lowerRuns n with heq | ⟨r, hr, hfirst, hlast, heq⟩
  · rw [heq]
    exact Or.inl hn
  · rcases lowerRuns_ascii r hr with hlow | ⟨hsingle, hk⟩
    · omega
    · omega

/-- Written in small letters for ASCII characters only. -/
structure IsPlainSmall (d : Char) : Prop where
  ascii : d.toNat < 0x80
  ne_null : d ≠ '\x00'
  ne_i : d ≠ 'i'
  ne_k : d ≠ 'k'

instance (d : Char) : Decidable (IsPlainSmall d) :=
  decidable_of_iff (d.toNat < 0x80 ∧ d ≠ '\x00' ∧ d ≠ 'i' ∧ d ≠ 'k')
    ⟨fun ⟨h₁, h₂, h₃, h₄⟩ => ⟨h₁, h₂, h₃, h₄⟩, fun ⟨h₁, h₂, h₃, h₄⟩ => ⟨h₁, h₂, h₃, h₄⟩⟩

theorem not_isPlainSmall_ofNat {n : Nat} (hn : 0x80 ≤ n ∨ n = 'k'.toNat) :
    ¬ IsPlainSmall (Char.ofNat n) := by
  intro h
  have hval := eq_toNat_of_ofNat_eq h.ne_null rfl
  rcases hn with hn | rfl
  · have hascii := h.ascii
    omega
  · exact h.ne_k rfl

theorem not_isPlainSmall_of_mem_lowerChar (hc : ¬ c.toNat < 0x80) (hd : d ∈ lowerChar c) :
    ¬ IsPlainSmall d := by
  rw [lowerChar, if_neg hc] at hd
  split at hd
  next =>
    rcases List.mem_cons.mp hd with rfl | hd
    · exact fun h => h.ne_i rfl
    · rw [List.mem_singleton.mp hd]
      exact fun h => absurd h.ascii (by decide)
  next =>
    rw [List.mem_singleton.mp hd]
    exact not_isPlainSmall_ofNat (mapByRuns_lowerRuns (Nat.not_lt.mp hc))

/-- The first character is written in front of the others. -/
theorem exists_lowerFrom_cons (inWord : Bool) (c : Char) (t : Text) :
    ∃ front inWord', lowerFrom inWord (c :: t) = front ++ lowerFrom inWord' t ∧
      (c.toNat < 0x80 ∧ front = [c.toLower] ∨ front ≠ [] ∧ ∀ d ∈ front, ¬ IsPlainSmall d) := by
  by_cases hc : c.toNat < 0x80
  · exact ⟨[c.toLower], _, by rw [lowerFrom, if_pos hc]; rfl, Or.inl ⟨hc, rfl⟩⟩
  · refine ⟨_, _, by rw [lowerFrom, if_neg hc], Or.inr ?_⟩
    split
    next =>
      have hsigma : ∀ d ∈ ['ς', 'σ'], ¬ IsPlainSmall d := by
        intro d hd h
        have hascii := h.ascii
        simp only [List.mem_cons, List.not_mem_nil, or_false] at hd
        rcases hd with rfl | rfl <;> exact absurd hascii (by decide)
      split
      next => exact ⟨by simp, fun d hd => hsigma d (by simp_all)⟩
      next => exact ⟨by simp, fun d hd => hsigma d (by simp_all)⟩
    next =>
      refine ⟨?_, fun d => not_isPlainSmall_of_mem_lowerChar hc⟩
      obtain ⟨a, s, hs, -⟩ := lowerChar_eq_cons hc
      rw [hs]
      exact List.cons_ne_nil a s

theorem length_le_lowerFrom (inWord : Bool) (t : Text) :
    t.length ≤ (lowerFrom inWord t).length := by
  induction t generalizing inWord with
  | nil => simp
  | cons c t ih =>
    obtain ⟨front, inWord', heq, hfront⟩ := exists_lowerFrom_cons inWord c t
    have hrest := ih inWord'
    have hpos : 0 < front.length := by
      rcases hfront with ⟨-, rfl⟩ | ⟨hne, -⟩
      · simp
      · exact List.length_pos_iff.mpr hne
    rw [heq, List.length_append, List.length_cons]
    omega

theorem exists_lowerFrom_append (inWord : Bool) (s t : Text) :
    ∃ front inWord', lowerFrom inWord (s ++ t) = front ++ lowerFrom inWord' t := by
  induction s generalizing inWord with
  | nil => exact ⟨[], inWord, rfl⟩
  | cons c s ih =>
    obtain ⟨first, inWord', heq, -⟩ := exists_lowerFrom_cons inWord c (s ++ t)
    obtain ⟨front, inWord'', hs⟩ := ih inWord'
    exact ⟨first ++ front, inWord'', by rw [List.cons_append, heq, hs, List.append_assoc]⟩

theorem endsIgnoringCase_of_lowerFrom (hending : ∀ d ∈ ending, IsPlainSmall d)
    (h : lowerFrom inWord t = s ++ ending) : EndsIgnoringCase ending t := by
  induction t generalizing inWord s ending with
  | nil =>
    obtain ⟨-, rfl⟩ := List.append_eq_nil_iff.mp h.symm
    exact ⟨[], [], rfl, rfl⟩
  | cons c t ih =>
    obtain ⟨front, inWord', heq, hfront⟩ := exists_lowerFrom_cons inWord c t
    rw [heq] at h
    rcases List.append_eq_append_iff.mp h with ⟨gap, -, hrest⟩ | ⟨start, hstart, hrest⟩
    · obtain ⟨stem, rest, rfl, hmap⟩ := ih hending hrest
      exact ⟨c :: stem, rest, rfl, hmap⟩
    · cases start with
      | nil =>
        obtain ⟨stem, rest, rfl, hmap⟩ := ih (s := []) hending hrest.symm
        exact ⟨c :: stem, rest, rfl, hmap⟩
      | cons d start =>
        -- The ending begins in what is written for the first character.
        have hd : d ∈ front := by simp [hstart]
        rcases hfront with ⟨-, rfl⟩ | ⟨-, hnone⟩
        · have hall : ∀ e ∈ lowerFrom inWord' t, IsPlainSmall e := fun e he =>
            hending e (by simp [hrest, he])
          have hwhole : lowerFrom inWord' t = [] ++ lowerFrom inWord' t := rfl
          obtain ⟨stem, rest, rfl, hmap⟩ := ih hall hwhole
          have hlen := length_le_lowerFrom inWord' (stem ++ rest)
          rw [← hmap, List.length_map, List.length_append] at hlen
          have hstem : stem = [] := List.length_eq_zero_iff.mp (by omega)
          have hshape : s = [] ∧ d = c.toLower ∧ start = [] := by
            cases s with
            | nil => simpa [eq_comm] using hstart
            | cons e s => simp at hstart
          obtain ⟨rfl, rfl, rfl⟩ := hshape
          subst hstem
          refine ⟨[], c :: rest, rfl, ?_⟩
          rw [List.map_cons, hmap, hrest]
          rfl
        · exact absurd (hending d (by simp [hrest])) (hnone d hd)

/-- Whether a text ends in certain characters is the same in small letters. -/
theorem endsWith_lower_iff (hending : ∀ d ∈ ending, IsPlainSmall d) :
    endsWith ending (lower t) = true ↔ EndsIgnoringCase ending t := by
  rw [endsWith, List.isSuffixOf_iff_suffix]
  constructor
  · rintro ⟨s, hs⟩
    exact endsIgnoringCase_of_lowerFrom hending hs.symm
  · rintro ⟨stem, rest, rfl, hmap⟩
    have hascii : IsAscii rest := by
      intro c hc
      by_contra hnot
      have hlow := (hending c.toLower (hmap ▸ List.mem_map_of_mem hc)).ascii
      rw [toLower_of_not_ascii hnot] at hlow
      exact hnot hlow
    obtain ⟨front, inWord', heq⟩ := exists_lowerFrom_append false stem rest
    refine ⟨front, ?_⟩
    rw [lower, heq, hascii.lowerFrom_eq_map, hmap]

end Stencil.Text
