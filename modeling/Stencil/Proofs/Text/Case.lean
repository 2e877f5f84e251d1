import Mathlib.Data.List.Basic
import Stencil.Text.Case

namespace Stencil.Text

theorem slash_lt_of_mem_lowerRuns : ∀ r ∈ lowerRuns, ('/'.toNat : Int) < r.first + r.shift := by
  decide +kernel

/-- A code point is left as it is or moved by the shift of a run that it lies in. -/
theorem mapByRuns_cases (runs : List CaseRun) (n : Nat) :
    mapByRuns runs n = n ∨
      ∃ r ∈ runs, r.first ≤ n ∧ n ≤ r.last ∧ mapByRuns runs n = (n + r.shift).toNat := by
  unfold mapByRuns
  split
  next r hr =>
    have hcovers := List.find?_some hr
    simp only [CaseRun.covers, Bool.and_eq_true, decide_eq_true_eq] at hcovers
    obtain ⟨⟨hfirst, hlast⟩, -⟩ := hcovers
    exact Or.inr ⟨r, List.mem_of_find?_eq_some hr, hfirst, hlast, rfl⟩
  next => exact Or.inl rfl

theorem slash_lt_mapByRuns {n : Nat} (hn : '/'.toNat < n) : '/'.toNat < mapByRuns lowerRuns n := by
  rcases mapByRuns_cases lowerRuns n with heq | ⟨r, hr, hfirst, -, heq⟩
  · rw [heq]
    exact hn
  · have hlow := slash_lt_of_mem_lowerRuns r hr
    omega

/-- What is no code point is read as the null character. -/
theorem eq_toNat_of_ofNat_eq {n : Nat} {c : Char} (hc : c ≠ '\x00') (h : Char.ofNat n = c) :
    n = c.toNat := by
  by_cases hvalid : n.isValidChar
  · have hval : (Char.ofNat n).toNat = n := by
      rw [Char.ofNat, dif_pos hvalid]
      rfl
    rw [← h, hval]
  · rw [Char.ofNat, dif_neg hvalid] at h
    exact absurd h.symm hc

theorem ofNat_ne_slash {n : Nat} (hn : '/'.toNat < n) : Char.ofNat n ≠ '/' := by
  intro h
  have hslash := eq_toNat_of_ofNat_eq (by decide) h
  omega

theorem toLower_ne_slash {c : Char} (hascii : c.toNat < 0x80) (hc : c ≠ '/') :
    c.toLower ≠ '/' := by
  have hall : ∀ n < 0x80, Char.ofNat n ≠ '/' → (Char.ofNat n).toLower ≠ '/' := by decide
  have := hall c.toNat hascii
  rw [Char.ofNat_toNat] at this
  exact this hc

theorem lowerChar_eq_cons {c : Char} (hascii : ¬ c.toNat < 0x80) :
    ∃ a t, lowerChar c = a :: t ∧ a ≠ '/' := by
  unfold lowerChar
  rw [if_neg hascii]
  split
  next => exact ⟨'i', ['\u0307'], rfl, by decide⟩
  next =>
    refine ⟨_, [], rfl, ofNat_ne_slash (slash_lt_mapByRuns ?_)⟩
    exact Nat.lt_of_lt_of_le (by decide) (Nat.not_lt.mp hascii)

/-- What does not begin with a slash does not do so in small letters. -/
theorem lower_cons_eq_cons {c : Char} (hc : c ≠ '/') (t : Text) :
    ∃ a s, lower (c :: t) = a :: s ∧ a ≠ '/' := by
  unfold lower lowerFrom
  split
  next hascii => exact ⟨_, _, rfl, toLower_ne_slash hascii hc⟩
  next hascii =>
    split
    next =>
      rw [Bool.false_and, if_neg (by decide)]
      exact ⟨_, _, rfl, by decide⟩
    next =>
      obtain ⟨a, s, hs, ha⟩ := lowerChar_eq_cons hascii
      rw [hs]
      exact ⟨a, _, rfl, ha⟩

end Stencil.Text
