import Stencil.Proofs.Text.Ending

namespace Stencil.Text

variable {s t u : Text} {c d : Char}

/-- Of the ASCII characters only the letters `I` and `S` are also the capitals of others. -/
theorem upperRuns_ascii : ∀ r ∈ upperRuns,
    (0x80 : Int) ≤ r.first + r.shift ∨
      r.first = r.last ∧ (r.first + r.shift = (73 : Int) ∨ r.first + r.shift = (83 : Int)) := by
  decide +kernel

theorem mapByRuns_upperRuns {n : Nat} (hn : 0x80 ≤ n) :
    0x80 ≤ mapByRuns upperRuns n ∨ mapByRuns upperRuns n = 73 ∨ mapByRuns upperRuns n = 83 := by
  rcases mapByRuns_cases upperRuns n with heq | ⟨r, hr, hfirst, hlast, heq⟩
  · rw [heq]
    exact Or.inl hn
  · rcases upperRuns_ascii r hr with hlow | ⟨hsingle, hI | hS⟩
    · omega
    · omega
    · omega

theorem eq_of_toLower_eq_v (h : c.toLower = 'v') : c = 'v' ∨ c = 'V' := by
  refine forall_toLower (p := fun c d => d = 'v' → c = 'v' ∨ c = 'V') (by decide) ?_ c h
  intro c hc
  exact Or.inl hc

theorem upperExpansions_not_v : ∀ e ∈ upperExpansions,
    ((e.2.map Char.ofNat).head?.any fun d => d.toLower ≠ 'v') = true := by
  decide +kernel

theorem exists_upperChar_cons (hc : ¬ c.toNat < 0x80) :
    ∃ d ds, upperChar c = d :: ds ∧ d.toLower ≠ 'v' := by
  rw [upperChar, if_neg hc]
  split
  next cs hcs =>
    obtain ⟨before, after, hmem, -⟩ := List.lookup_eq_some_iff.mp hcs
    have hfirst := upperExpansions_not_v (c.toNat, cs) (by simp [hmem])
    cases hmap : cs.map Char.ofNat with
    | nil => simp [hmap] at hfirst
    | cons d ds =>
      rw [hmap] at hfirst
      exact ⟨d, ds, rfl, by simpa using hfirst⟩
  next =>
    refine ⟨_, [], rfl, fun hv => ?_⟩
    have hmapped := mapByRuns_upperRuns (Nat.not_lt.mp hc)
    have hv' : 'v'.toNat = 118 ∧ 'V'.toNat = 86 := by decide
    rcases eq_of_toLower_eq_v hv with heq | heq
    · have hnat := eq_toNat_of_ofNat_eq (by decide) heq
      omega
    · have hnat := eq_toNat_of_ofNat_eq (by decide) heq
      omega

/-- A text begins with the letter, as a small or a capital one. -/
def BeginsWithV (t : Text) : Prop :=
  ∃ c u, t = c :: u ∧ c.toLower = 'v'

theorem beginsWithV_of_lower (h : lower t = 'v' :: s) : BeginsWithV t := by
  cases t with
  | nil => cases h
  | cons c u =>
    obtain ⟨front, inWord, heq, hfront⟩ := exists_lowerFrom_cons false c u
    rw [lower, heq] at h
    rcases hfront with ⟨-, rfl⟩ | ⟨hne, hnone⟩
    · exact ⟨c, u, rfl, (List.cons.inj h).1⟩
    · obtain ⟨d, ds, rfl⟩ := List.exists_cons_of_ne_nil hne
      obtain ⟨rfl, -⟩ := List.cons.inj h
      exact absurd (by decide) (hnone 'v' List.mem_cons_self)

theorem beginsWithV_of_upperFirst (h : BeginsWithV (upperFirst t)) : BeginsWithV t := by
  obtain ⟨d, s, heq, hd⟩ := h
  cases t with
  | nil => cases heq
  | cons c u =>
    refine ⟨c, u, rfl, ?_⟩
    rw [upperFirst] at heq
    by_cases hc : c.toNat < 0x80
    · rw [upperChar, if_pos hc] at heq
      obtain ⟨rfl, -⟩ := List.cons.inj heq
      have hall : ∀ n < 0x80, (Char.ofNat n).toUpper.toLower = 'v' →
          (Char.ofNat n).toLower = 'v' := by decide
      have hself := hall c.toNat hc
      rw [Char.ofNat_toNat] at hself
      exact hself hd
    · obtain ⟨first, rest, hupper, hfirst⟩ := exists_upperChar_cons hc
      rw [hupper] at heq
      obtain ⟨rfl, -⟩ := List.cons.inj heq
      exact absurd hd hfirst

theorem lower_upperFirst_of_beginsWithV (h : BeginsWithV t) : lower (upperFirst t) = lower t := by
  obtain ⟨c, u, rfl, hc⟩ := h
  have hsmall : lower ('v' :: u) = lower ('V' :: u) := rfl
  rcases eq_of_toLower_eq_v hc with rfl | rfl
  · exact hsmall.symm
  · rfl

/-- A text in small letters begins with `v` if it does so behind a capital first letter, and goes on
in the same way. -/
theorem lower_upperFirst_eq_cons_iff :
    lower (upperFirst t) = 'v' :: s ↔ lower t = 'v' :: s := by
  constructor
  · intro h
    have hv := beginsWithV_of_upperFirst (beginsWithV_of_lower h)
    rwa [lower_upperFirst_of_beginsWithV hv] at h
  · intro h
    have hv := beginsWithV_of_lower h
    rwa [lower_upperFirst_of_beginsWithV hv]

end Stencil.Text
