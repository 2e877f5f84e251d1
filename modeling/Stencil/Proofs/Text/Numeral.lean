import Mathlib.Tactic.Ring
import Stencil.Proofs.Text.Lines
import Stencil.Text.Numeral

namespace Stencil.Text

/-- One of the digits below eight that ASCII has. -/
def IsOctalDigit (c : Char) : Prop :=
  '0' ≤ c ∧ c ≤ '7'

instance (c : Char) : Decidable (IsOctalDigit c) :=
  inferInstanceAs (Decidable (_ ∧ _))

namespace IsOctalDigit

variable {c : Char}

theorem toNat_bounds (h : IsOctalDigit c) : 48 ≤ c.toNat ∧ c.toNat ≤ 55 :=
  h

theorem ne_of_toNat_lt (h : IsOctalDigit c) {m : Char} (hm : m.toNat < 48 ∨ 55 < m.toNat) :
    c ≠ m := by
  rintro rfl
  have := h.toNat_bounds
  omega

theorem isBlankChar_eq (h : IsOctalDigit c) : isBlankChar c = false := by
  have := h.toNat_bounds
  simp only [isBlankChar, blankRanges, inRanges]
  grind

theorem decimalDigit?_eq (h : IsOctalDigit c) : decimalDigit? c = some (c.toNat - 48) := by
  have hbounds := h.toNat_bounds
  have hfirst : decimalZeros.find? (fun z => z ≤ c.toNat && c.toNat < z + 10) = some 0x30 := by
    refine List.find?_cons_of_pos ?_
    simp only [Bool.and_eq_true, decide_eq_true_eq]
    omega
  rw [decimalDigit?, hfirst]
  rfl

theorem digit?_eq (h : IsOctalDigit c) : digit? c = some (c.toNat - 48) := by
  have hbounds := h.toNat_bounds
  have hlower : ¬ 'a' ≤ c := fun hc => by
    have : 97 ≤ c.toNat := hc
    omega
  have hupper : ¬ 'A' ≤ c := fun hc => by
    have : 65 ≤ c.toNat := hc
    omega
  simp [digit?, hlower, hupper, h.decimalDigit?_eq]

end IsOctalDigit

/-- The number that octal digits stand for behind a number that is read already. -/
def octalFrom (n : Nat) (t : Text) : Nat :=
  t.foldl (fun n c => n * 8 + (c.toNat - 48)) n

variable {t : Text}

theorem octalFrom_append (n : Nat) (s t : Text) :
    octalFrom n (s ++ t) = octalFrom (octalFrom n s) t :=
  List.foldl_append

theorem octalFrom_lt (ht : ∀ c ∈ t, IsOctalDigit c) (n : Nat) :
    octalFrom n t < (n + 1) * 8 ^ t.length := by
  induction t generalizing n with
  | nil => simp [octalFrom]
  | cons c t ih =>
    have hbounds := (ht c List.mem_cons_self).toNat_bounds
    calc octalFrom n (c :: t)
        = octalFrom (n * 8 + (c.toNat - 48)) t := rfl
      _ < (n * 8 + (c.toNat - 48) + 1) * 8 ^ t.length :=
        ih (fun d hd => ht d (List.mem_cons_of_mem c hd)) _
      _ ≤ ((n + 1) * 8) * 8 ^ t.length := Nat.mul_le_mul_right _ (by omega)
      _ = (n + 1) * 8 ^ (c :: t).length := by rw [List.length_cons, pow_succ]; ring

theorem digitsFrom?_octal (ht : ∀ c ∈ t, IsOctalDigit c) (n : Nat) :
    digitsFrom? 8 false n t = some (octalFrom n t) := by
  induction t generalizing n with
  | nil => rfl
  | cons c t ih =>
    have hc := ht c List.mem_cons_self
    have hbounds := hc.toNat_bounds
    have hmark : c ≠ '_' := hc.ne_of_toNat_lt (by decide)
    have hdigit : c.toNat - 48 < 8 := by omega
    rw [digitsFrom?, if_neg hmark, hc.digit?_eq]
    simp only [if_pos hdigit]
    exact ih (fun d hd => ht d (List.mem_cons_of_mem c hd)) _

theorem digits?_octal (ht : ∀ c ∈ t, IsOctalDigit c) (hne : t ≠ []) :
    digits? 8 t = some (octalFrom 0 t) := by
  have hread := digitsFrom?_octal ht 0
  obtain ⟨c, t, rfl⟩ := List.exists_cons_of_ne_nil hne
  have hmark : c ≠ '_' := (ht c List.mem_cons_self).ne_of_toNat_lt (by decide)
  rw [digitsFrom?, if_neg hmark] at hread
  rw [digits?, digitsFrom?, if_neg hmark]
  exact hread

theorem octalMark?_eq_none (ht : ∀ c ∈ t, IsOctalDigit c) : octalMark? t = none := by
  unfold octalMark?
  split
  next t =>
    have ho : IsOctalDigit 'o' := ht 'o' (by simp)
    exact absurd ho (by decide)
  next t =>
    have ho : IsOctalDigit 'O' := ht 'O' (by simp)
    exact absurd ho (by decide)
  next => rfl

/-- Octal digits alone are read as the number without sign that they stand for. -/
theorem octal?_octal (ht : ∀ c ∈ t, IsOctalDigit c) (hne : t ≠ []) :
    octal? t = some (octalFrom 0 t : Int) := by
  have hstrip : strip t = t := strip_of_forall fun c hc => (ht c hc).isBlankChar_eq
  have hdigits : octalDigits? t = some (octalFrom 0 t) := by
    rw [octalDigits?, octalMark?_eq_none ht]
    exact digits?_octal ht hne
  unfold octal?
  rw [hstrip]
  split
  next t =>
    have hsign : IsOctalDigit '-' := ht '-' (by simp)
    exact absurd hsign (by decide)
  next t =>
    have hsign : IsOctalDigit '+' := ht '+' (by simp)
    exact absurd hsign (by decide)
  next => rw [hdigits]; rfl

theorem digitChar_bounds {n : Nat} (h : n < 8) :
    IsOctalDigit (Nat.digitChar n) ∧ (Nat.digitChar n).toNat - 48 = n := by
  decide +revert

theorem octal_ne_nil (n : Nat) : octal n ≠ [] := by
  simp [octal]

theorem isOctalDigit_of_mem_octal {n : Nat} {c : Char} (h : c ∈ octal n) : IsOctalDigit c := by
  induction n using Nat.strongRecOn with
  | ind n ih =>
    rw [octal] at h
    by_cases hn : n < 8
    case pos =>
      rw [Nat.toDigits_of_lt_base hn, List.mem_singleton] at h
      exact h ▸ (digitChar_bounds hn).1
    case neg =>
      rw [Nat.toDigits_of_base_le (by decide) (by omega), List.mem_append, List.mem_singleton] at h
      rcases h with h | rfl
      · exact ih (n / 8) (by omega) h
      · exact (digitChar_bounds (by omega)).1

theorem octalFrom_octal (n : Nat) : octalFrom 0 (octal n) = n := by
  induction n using Nat.strongRecOn with
  | ind n ih =>
    rw [octal]
    by_cases hn : n < 8
    case pos =>
      rw [Nat.toDigits_of_lt_base hn]
      simpa [octalFrom] using (digitChar_bounds hn).2
    case neg =>
      have hlast : (Nat.digitChar (n % 8)).toNat - 48 = n % 8 := (digitChar_bounds (by omega)).2
      rw [Nat.toDigits_of_base_le (by decide) (by omega), octalFrom_append]
      calc octalFrom (octalFrom 0 (octal (n / 8))) [Nat.digitChar (n % 8)]
          = n / 8 * 8 + ((Nat.digitChar (n % 8)).toNat - 48) := by
            rw [ih (n / 8) (by omega)]
            rfl
        _ = n := by omega

/-- A number is read back from the octal digits that it is written with. -/
theorem octal?_octal_self (n : Nat) : octal? (octal n) = some (n : Int) := by
  rw [octal?_octal (fun _ => isOctalDigit_of_mem_octal) (octal_ne_nil n), octalFrom_octal]

end Stencil.Text
