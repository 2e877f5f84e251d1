import Stencil.Json.Parser
import Stencil.Json.Printer
import Stencil.Proofs.Text.Cut

namespace Stencil.Json

section Literals

variable {c d : Char} {n : Nat}

theorem stringFrom?_simple (h : simpleEscape? d = some c) (hu : d ≠ 'u') (rest : Text) :
    stringFrom? 0 ('\\' :: d :: rest) =
      (stringFrom? 0 rest).map fun (s, rest) => (c :: s, rest) := by
  rw [stringFrom?]
  · simp only [h]
    rfl
  · exact fun _ _ _ _ _ heq _ => hu heq

theorem stringFrom?_hex {a b c d : Char} (h : hexValue? a b c d = some n)
    (hhigh : isHighSurrogate n = false) (rest : Text) :
    stringFrom? 0 ('\\' :: 'u' :: a :: b :: c :: d :: rest) =
      (stringFrom? 0 rest).map fun (s, rest) => (ofUnit n :: s, rest) := by
  rw [stringFrom?]
  simp only [h, hhigh]
  rfl

theorem stringFrom?_plain (hquote : c ≠ '"') (hslash : c ≠ '\\') (hc : ¬ c.toNat < 0x20)
    (rest : Text) :
    stringFrom? 0 (c :: rest) = (stringFrom? 0 rest).map fun (s, rest) => (c :: s, rest) := by
  rw [stringFrom?]
  · rw [if_neg hc]
  · exact hquote
  · exact hslash

/-- Control characters are written with four hexadecimal digits, of which the first two are zero. -/
theorem hex_control : ∀ n < 0x20,
    Text.hex 4 n = ['0', '0', Nat.digitChar (n / 16), Nat.digitChar (n % 16)] ∧
      hexValue? '0' '0' (Nat.digitChar (n / 16)) (Nat.digitChar (n % 16)) = some n ∧
      isHighSurrogate n = false ∧ ofUnit n = Char.ofNat n := by
  decide

/-- The characters with an escape of one letter, and these letters. -/
def letters : List (Char × Char) :=
  [('"', '"'), ('\\', '\\'), ('\n', 'n'), ('\r', 'r'), ('\t', 't'), ('\x08', 'b'), ('\x0c', 'f')]

theorem escapeChar_of_mem_letters : ∀ p ∈ letters,
    escapeChar p.1 = ['\\', p.2] ∧ simpleEscape? p.2 = some p.1 ∧ p.2 ≠ 'u' := by
  decide

theorem escapeChar_of_not_mem_letters (h : ∀ d, (c, d) ∉ letters) :
    escapeChar c = if c.toNat < 0x20 then "\\u" ++ Text.hex 4 c.toNat else [c] := by
  have hne : ∀ a d, (a, d) ∈ letters → c ≠ a := by
    rintro a d hmem rfl
    exact h d hmem
  rw [escapeChar, if_neg (hne _ '"' (by decide)), if_neg (hne _ '\\' (by decide)),
    if_neg (hne _ 'n' (by decide)), if_neg (hne _ 'r' (by decide)), if_neg (hne _ 't' (by decide)),
    if_neg (hne _ 'b' (by decide)), if_neg (hne _ 'f' (by decide))]

theorem stringFrom?_escapeChar (c : Char) (rest : Text) :
    stringFrom? 0 (escapeChar c ++ rest) =
      (stringFrom? 0 rest).map fun (s, rest) => (c :: s, rest) := by
  by_cases hc : ∃ d, (c, d) ∈ letters
  · obtain ⟨d, hd⟩ := hc
    obtain ⟨heq, hsimple, hu⟩ := escapeChar_of_mem_letters (c, d) hd
    rw [heq]
    exact stringFrom?_simple hsimple hu rest
  · have hnone : ∀ d, (c, d) ∉ letters := fun d hd => hc ⟨d, hd⟩
    rw [escapeChar_of_not_mem_letters hnone]
    split
    next hcontrol =>
      obtain ⟨hhex, hvalue, hhigh, hunit⟩ := hex_control c.toNat hcontrol
      rw [hhex]
      refine (stringFrom?_hex hvalue hhigh rest).trans ?_
      rw [hunit, Char.ofNat_toNat]
    next hcontrol =>
      refine stringFrom?_plain ?_ ?_ hcontrol rest
      · rintro rfl
        exact hnone '"' (by decide)
      · rintro rfl
        exact hnone '\\' (by decide)

/-- A literal is read up to its closing quote. -/
theorem string?_literal (t rest : Text) :
    string? (t.flatMap escapeChar ++ '"' :: rest) = some (t, rest) := by
  rw [string?]
  induction t with
  | nil => rfl
  | cons c t ih =>
    rw [List.flatMap_cons, List.append_assoc, stringFrom?_escapeChar, ih]
    rfl

end Literals

section Numerals

variable {d : Char} {ds t rest : Text} {n : Nat}

theorem digitChar_decimal {n : Nat} (h : n < 10) :
    Text.isAsciiDigit (Nat.digitChar n) = true ∧ (Nat.digitChar n).toNat - '0'.toNat = n := by
  decide +revert

theorem isAsciiDigit_of_mem_ofNat (h : d ∈ Text.ofNat n) : Text.isAsciiDigit d = true := by
  induction n using Nat.strongRecOn with
  | ind n ih =>
    rw [Text.ofNat] at h
    by_cases hn : n < 10
    · rw [Nat.toDigits_of_lt_base hn, List.mem_singleton] at h
      exact h ▸ (digitChar_decimal hn).1
    · rw [Nat.toDigits_of_base_le (by decide) (by omega), List.mem_append, List.mem_singleton] at h
      rcases h with h | rfl
      · exact ih (n / 10) (by omega) h
      · exact (digitChar_decimal (by omega)).1

theorem digitValue_concat (ds : Text) (hd : Text.isAsciiDigit d = true) :
    Decimal.digitValue (ds ++ [d]) = Decimal.digitValue ds * 10 + (d.toNat - '0'.toNat) := by
  simp [Decimal.digitValue, List.foldl_append, hd]

theorem digitValue_ofNat (n : Nat) : Decimal.digitValue (Text.ofNat n) = n := by
  induction n using Nat.strongRecOn with
  | ind n ih =>
    rw [Text.ofNat]
    by_cases hn : n < 10
    · obtain ⟨hdigit, hvalue⟩ := digitChar_decimal hn
      rw [Nat.toDigits_of_lt_base hn]
      exact (digitValue_concat [] hdigit).trans (by rw [hvalue]; simp [Decimal.digitValue])
    · obtain ⟨hdigit, hvalue⟩ := digitChar_decimal (n := n % 10) (by omega)
      rw [Nat.toDigits_of_base_le (by decide) (by omega), digitValue_concat _ hdigit, hvalue,
        ← Text.ofNat, ih (n / 10) (by omega)]
      omega

/-- A positive number is written without zeros in front. -/
theorem exists_ofNat_cons (hn : n ≠ 0) : ∃ d ds, Text.ofNat n = d :: ds ∧ d ≠ '0' := by
  induction n using Nat.strongRecOn with
  | ind n ih =>
    rw [Text.ofNat]
    by_cases hsmall : n < 10
    · have hzero : ∀ n < 10, n ≠ 0 → Nat.digitChar n ≠ '0' := by decide
      exact ⟨_, _, Nat.toDigits_of_lt_base hsmall, hzero n hsmall hn⟩
    · obtain ⟨d, ds, hds, hd⟩ := ih (n / 10) (by omega) (by omega)
      rw [Nat.toDigits_of_base_le (by decide) (by omega), ← Text.ofNat, hds]
      exact ⟨d, _, rfl, hd⟩

/-- What may follow a whole number: no digit, point or exponent. -/
def EndsNumber (rest : Text) : Prop :=
  ∀ c ∈ rest.head?, Text.isAsciiDigit c = false ∧ c ≠ '.' ∧ c ≠ 'e' ∧ c ≠ 'E'

theorem digits_append (hds : ∀ d ∈ ds, Text.isAsciiDigit d = true) (hrest : EndsNumber rest) :
    digits (ds ++ rest) = (ds, rest) := by
  have hnone : rest.takeWhile Text.isAsciiDigit = [] ∧ rest.dropWhile Text.isAsciiDigit = rest := by
    cases rest with
    | nil => exact ⟨rfl, rfl⟩
    | cons c rest =>
      have hc := (hrest c rfl).1
      exact ⟨List.takeWhile_cons_of_neg (by simp [hc]), List.dropWhile_cons_of_neg (by simp [hc])⟩
  rw [digits, List.span_eq_takeWhile_dropWhile, List.takeWhile_append_of_pos hds,
    List.dropWhile_append_of_pos hds, hnone.1, hnone.2, List.append_nil]

theorem wholeDigits?_ofNat (n : Nat) (hrest : EndsNumber rest) :
    wholeDigits? (Text.ofNat n ++ rest) = some (Text.ofNat n, rest) := by
  by_cases hn : n = 0
  · subst hn
    rfl
  · have hdigits : digits (Text.ofNat n ++ rest) = (Text.ofNat n, rest) :=
      digits_append (fun _ => isAsciiDigit_of_mem_ofNat) hrest
    obtain ⟨d, ds, hds, hd⟩ := exists_ofNat_cons hn
    rw [hds] at hdigits ⊢
    rw [wholeDigits?]
    · rw [hdigits]
      rfl
    · exact fun _ h => hd (List.cons.inj h).1

theorem unsigned?_ofNat (negative : Bool) (n : Nat) (hrest : EndsNumber rest) :
    unsigned? negative (Text.ofNat n ++ rest) =
      some (.int (if negative then -(n : Int) else n), rest) := by
  have hplaces : places rest = ([], rest) := by
    unfold places
    split
    next => exact absurd rfl (hrest '.' rfl).2.1
    next => rfl
  have hexponent : exponent? rest = none := by
    cases rest with
    | nil => rfl
    | cons c rest =>
      obtain ⟨-, -, he, hE⟩ := hrest c rfl
      simp [exponent?, he, hE]
  simp [unsigned?, wholeDigits?_ofNat n hrest, hplaces, hexponent, digitValue_ofNat]

theorem scalar?_digit (hd : Text.isAsciiDigit d = true) (t : Text) :
    scalar? (d :: t) = unsigned? false (d :: t) ∧ scalar? ('-' :: d :: t) = unsigned? true (d :: t) := by
  have hne : ∀ c, Text.isAsciiDigit c = false → c ≠ d := by
    rintro c hc rfl
    rw [hd] at hc
    exact absurd hc (by decide)
  have hn := hne 'n' (by decide)
  have ht := hne 't' (by decide)
  have hf := hne 'f' (by decide)
  have hN := hne 'N' (by decide)
  have hI := hne 'I' (by decide)
  have hminus := hne '-' (by decide)
  constructor
  · simp [scalar?, Text.after?, hn, ht, hf, hN, hI, hminus, hminus.symm]
  · simp [scalar?, Text.after?, hI]

theorem exists_ofNat_digit (n : Nat) :
    ∃ d ds, Text.ofNat n = d :: ds ∧ Text.isAsciiDigit d = true := by
  by_cases hn : n = 0
  · exact ⟨'0', [], hn ▸ rfl, by decide⟩
  · obtain ⟨d, ds, hds, -⟩ := exists_ofNat_cons hn
    exact ⟨d, ds, hds, isAsciiDigit_of_mem_ofNat (n := n) (hds ▸ List.mem_cons_self)⟩

/-- A whole number starts with a digit or a minus sign. -/
theorem exists_ofInt_cons (n : Int) :
    ∃ c t, Text.ofInt n = c :: t ∧ (Text.isAsciiDigit c = true ∨ c = '-') := by
  cases n with
  | ofNat n =>
    obtain ⟨d, ds, hds, hd⟩ := exists_ofNat_digit n
    exact ⟨d, ds, hds, Or.inl hd⟩
  | negSucc n => exact ⟨'-', Text.ofNat (n + 1), rfl, Or.inr rfl⟩

/-- A whole number is read back in front of what may follow it. -/
theorem scalar?_ofInt (n : Int) (hrest : EndsNumber rest) :
    scalar? (Text.ofInt n ++ rest) = some (.int n, rest) := by
  cases n with
  | ofNat n =>
    have hread := unsigned?_ofNat false n hrest
    obtain ⟨d, ds, hds, hd⟩ := exists_ofNat_digit n
    rw [Text.ofInt]
    rw [hds] at hread ⊢
    exact (scalar?_digit hd _).1.trans hread
  | negSucc n =>
    have hread := unsigned?_ofNat true (n + 1) hrest
    obtain ⟨d, ds, hds, hd⟩ := exists_ofNat_digit (n + 1)
    rw [Text.ofInt]
    rw [hds] at hread ⊢
    exact (scalar?_digit hd _).2.trans hread

end Numerals

end Stencil.Json
