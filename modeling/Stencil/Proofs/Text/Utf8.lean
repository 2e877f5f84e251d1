import Mathlib.Data.List.Basic
import Stencil.Text.Utf8

namespace Stencil.Text

/-- A byte behind the first one of a sequence, with six bits of a number. -/
def tailByte (n : Nat) : UInt8 :=
  UInt8.ofNat (n % 64 + 128)

variable {bytes : Bytes} {low high : UInt8} {more value n v : Nat} {t u : Text} {c : Char}

theorem toNat_ofNat_of_lt (hn : n < 256) : (UInt8.ofNat n).toNat = n := by
  rw [UInt8.toNat_ofNat']
  omega

theorem toNat_tailByte (n : Nat) : (tailByte n).toNat = n % 64 + 128 :=
  toNat_ofNat_of_lt (by omega)

namespace Utf8State

theorem next_tailByte (hlow : low.toNat ≤ n % 64 + 128) (hhigh : n % 64 + 128 ≤ high.toNat) :
    (within low high more value).next (tailByte n) =
      match more with
      | 0 => ([some (Char.ofNat (value * 64 + n % 64))], ready)
      | more + 1 => ([], within 0x80 0xBF more (value * 64 + n % 64)) := by
  have hb : (low ≤ tailByte n && tailByte n ≤ high) = true := by
    simp only [Bool.and_eq_true, decide_eq_true_eq, UInt8.le_iff_toNat_le, toNat_tailByte]
    exact ⟨hlow, hhigh⟩
  have hvalue : value * 64 + ((tailByte n).toNat - 0x80) = value * 64 + n % 64 := by
    rw [toNat_tailByte]
    omega
  cases more with
  | zero => simp only [next, if_pos hb, hvalue]
  | succ more => simp only [next, if_pos hb, hvalue]

theorem scan_last (hlow : low.toNat ≤ n % 64 + 128) (hhigh : n % 64 + 128 ≤ high.toNat) :
    (within low high 0 value).scan (tailByte n :: bytes) =
      some (Char.ofNat (value * 64 + n % 64)) :: ready.scan bytes := by
  rw [scan, next_tailByte hlow hhigh]
  rfl

theorem scan_more (hlow : low.toNat ≤ n % 64 + 128) (hhigh : n % 64 + 128 ≤ high.toNat) :
    (within low high (more + 1) value).scan (tailByte n :: bytes) =
      (within 0x80 0xBF more (value * 64 + n % 64)).scan bytes := by
  rw [scan, next_tailByte hlow hhigh]
  rfl

theorem lead_ofNat (hn : n < 256) :
    lead (UInt8.ofNat n) =
      if n < 0x80 then ([some (Char.ofNat n)], .ready)
      else if 0xC2 ≤ n ∧ n ≤ 0xDF then ([], .within 0x80 0xBF 0 (n - 0xC0))
      else if n = 0xE0 then ([], .within 0xA0 0xBF 1 0)
      else if n = 0xED then ([], .within 0x80 0x9F 1 0xD)
      else if 0xE1 ≤ n ∧ n ≤ 0xEF then ([], .within 0x80 0xBF 1 (n - 0xE0))
      else if n = 0xF0 then ([], .within 0x90 0xBF 2 0)
      else if n = 0xF4 then ([], .within 0x80 0x8F 2 4)
      else if 0xF1 ≤ n ∧ n ≤ 0xF3 then ([], .within 0x80 0xBF 2 (n - 0xF0))
      else ([none], .ready) := by
  simp only [lead, UInt8.lt_iff_toNat_lt, UInt8.le_iff_toNat_le, ← UInt8.toNat_inj,
    toNat_ofNat_of_lt hn, Bool.and_eq_true, decide_eq_true_eq]
  rfl

theorem scan_lead (h : lead (UInt8.ofNat n) = ([], within low high more value)) :
    ready.scan (UInt8.ofNat n :: bytes) = (within low high more value).scan bytes := by
  rw [scan, next, h]
  rfl

theorem scan_ascii (hv : v < 0x80) :
    ready.scan (UInt8.ofNat v :: bytes) = some (Char.ofNat v) :: ready.scan bytes := by
  rw [scan, next, lead_ofNat (by omega), if_pos hv]
  rfl

theorem scan_two (hlow : 0x80 ≤ v) (hhigh : v < 0x800) :
    ready.scan (UInt8.ofNat (v / 64 + 192) :: tailByte v :: bytes) =
      some (Char.ofNat v) :: ready.scan bytes := by
  have hlead : lead (UInt8.ofNat (v / 64 + 192)) = ([], within 0x80 0xBF 0 (v / 64)) := by
    rw [lead_ofNat (by omega), if_neg (by omega), if_pos (by omega), Nat.add_sub_cancel]
  have hvalue : v / 64 * 64 + v % 64 = v := by omega
  rw [scan_lead hlead, scan_last (by simp) (by simp; omega), hvalue]

/-- The first byte of three keeps the second one from making a short or a surrogate code point. -/
theorem lead_three (hlow : 0x800 ≤ v) (hhigh : v < 0x10000)
    (hvalid : v < 0xD800 ∨ 0xDFFF < v) :
    ∃ low high, lead (UInt8.ofNat (v / 4096 + 224)) = ([], within low high 1 (v / 4096)) ∧
      low.toNat ≤ v / 64 % 64 + 128 ∧ v / 64 % 64 + 128 ≤ high.toNat := by
  rw [lead_ofNat (by omega), if_neg (by omega), if_neg (by omega)]
  by_cases hfirst : v / 4096 = 0
  · rw [if_pos (by omega), hfirst]
    exact ⟨_, _, rfl, by simp; omega, by simp; omega⟩
  by_cases hsurrogate : v / 4096 = 0xD
  · rw [if_neg (by omega), if_pos (by omega), hsurrogate]
    exact ⟨_, _, rfl, by simp, by simp; omega⟩
  · rw [if_neg (by omega), if_neg (by omega), if_pos (by omega), Nat.add_sub_cancel]
    exact ⟨_, _, rfl, by simp, by simp; omega⟩

theorem scan_three (hlow : 0x800 ≤ v) (hhigh : v < 0x10000) (hvalid : v < 0xD800 ∨ 0xDFFF < v) :
    ready.scan (UInt8.ofNat (v / 4096 + 224) :: tailByte (v / 64) :: tailByte v :: bytes) =
      some (Char.ofNat v) :: ready.scan bytes := by
  obtain ⟨low, high, hlead, hl, hh⟩ := lead_three hlow hhigh hvalid
  have hvalue : (v / 4096 * 64 + v / 64 % 64) * 64 + v % 64 = v := by omega
  rw [scan_lead hlead, scan_more hl hh, scan_last (by simp) (by simp; omega), hvalue]

/-- The first byte of four keeps the second one from making a short or too large a code point. -/
theorem lead_four (hlow : 0x10000 ≤ v) (hhigh : v < 0x110000) :
    ∃ low high, lead (UInt8.ofNat (v / 262144 + 240)) = ([], within low high 2 (v / 262144)) ∧
      low.toNat ≤ v / 4096 % 64 + 128 ∧ v / 4096 % 64 + 128 ≤ high.toNat := by
  rw [lead_ofNat (by omega), if_neg (by omega), if_neg (by omega), if_neg (by omega),
    if_neg (by omega), if_neg (by omega)]
  by_cases hfirst : v / 262144 = 0
  · rw [if_pos (by omega), hfirst]
    exact ⟨_, _, rfl, by simp; omega, by simp; omega⟩
  by_cases hlast : v / 262144 = 4
  · rw [if_neg (by omega), if_pos (by omega), hlast]
    exact ⟨_, _, rfl, by simp, by simp; omega⟩
  · rw [if_neg (by omega), if_neg (by omega), if_pos (by omega), Nat.add_sub_cancel]
    exact ⟨_, _, rfl, by simp, by simp; omega⟩

theorem scan_four (hlow : 0x10000 ≤ v) (hhigh : v < 0x110000) :
    ready.scan (UInt8.ofNat (v / 262144 + 240) :: tailByte (v / 4096) :: tailByte (v / 64) ::
      tailByte v :: bytes) = some (Char.ofNat v) :: ready.scan bytes := by
  obtain ⟨low, high, hlead, hl, hh⟩ := lead_four hlow hhigh
  have hvalue : ((v / 262144 * 64 + v / 4096 % 64) * 64 + v / 64 % 64) * 64 + v % 64 = v := by omega
  rw [scan_lead hlead, scan_more hl hh, scan_more (by simp) (by simp; omega),
    scan_last (by simp) (by simp; omega), hvalue]

end Utf8State

theorem utf8EncodeChar_eq (hc : c.toNat = v) :
    String.utf8EncodeChar c =
      if v < 0x80 then [UInt8.ofNat v]
      else if v < 0x800 then [UInt8.ofNat (v / 64 + 192), tailByte v]
      else if v < 0x10000 then [UInt8.ofNat (v / 4096 + 224), tailByte (v / 64), tailByte v]
      else [UInt8.ofNat (v / 262144 + 240), tailByte (v / 4096), tailByte (v / 64), tailByte v] := by
  have hvalid : v < 0xD800 ∨ 0xDFFF < v ∧ v < 0x110000 := hc ▸ c.valid
  have hval : c.val.toNat = v := hc
  simp only [String.utf8EncodeChar, hval]
  by_cases h₁ : v < 0x80
  · rw [if_pos (by omega), if_pos h₁]
  by_cases h₂ : v < 0x800
  · have hlead : v / 64 % 32 = v / 64 := by omega
    rw [if_neg (by omega), if_pos (by omega), if_neg h₁, if_pos h₂, hlead]
    rfl
  by_cases h₃ : v < 0x10000
  · have hlead : v / 4096 % 16 = v / 4096 := by omega
    rw [if_neg (by omega), if_neg (by omega), if_pos (by omega), if_neg h₁, if_neg h₂, if_pos h₃,
      hlead]
    rfl
  · have hlead : v / 262144 % 8 = v / 262144 := by omega
    rw [if_neg (by omega), if_neg (by omega), if_neg (by omega), if_neg h₁, if_neg h₂, if_neg h₃,
      hlead]
    rfl

theorem scan_utf8EncodeChar (c : Char) (bytes : Bytes) :
    Utf8State.ready.scan (String.utf8EncodeChar c ++ bytes) =
      some c :: Utf8State.ready.scan bytes := by
  obtain ⟨v, hv⟩ : ∃ v, c.toNat = v := ⟨_, rfl⟩
  have hvalid : v < 0xD800 ∨ 0xDFFF < v ∧ v < 0x110000 := hv ▸ c.valid
  have hc : Char.ofNat v = c := by rw [← hv, Char.ofNat_toNat]
  rw [utf8EncodeChar_eq hv]
  split
  next h₁ => rw [List.singleton_append, Utf8State.scan_ascii h₁, hc]
  next h₁ =>
    split
    next h₂ => rw [List.cons_append, List.singleton_append, Utf8State.scan_two (by omega) h₂, hc]
    next h₂ =>
      split
      next h₃ =>
        rw [List.cons_append, List.cons_append, List.singleton_append,
          Utf8State.scan_three (by omega) h₃ (by omega), hc]
      next h₃ =>
        rw [List.cons_append, List.cons_append, List.cons_append, List.singleton_append,
          Utf8State.scan_four (by omega) (by omega), hc]

theorem scan_encode (t : Text) : Utf8State.ready.scan (encode t) = t.map some := by
  induction t with
  | nil => rfl
  | cons c t ih => rw [encode, List.flatMap_cons, scan_utf8EncodeChar, ← encode, ih, List.map_cons]

theorem mapM_id_eq_some_iff {α : Type} {xs : List (Option α)} {ys : List α} :
    xs.mapM id = some ys ↔ xs = ys.map some := by
  induction xs generalizing ys with
  | nil => cases ys <;> simp
  | cons x xs ih =>
    rw [List.mapM_cons, id_eq]
    simp only [Option.bind_eq_bind, Option.pure_def, Option.bind_eq_some_iff, Option.some.injEq, ih]
    constructor
    · rintro ⟨y, rfl, ys, rfl, rfl⟩
      rfl
    · intro h
      obtain ⟨y, zs, rfl, hy, hzs⟩ := List.map_eq_cons_iff.mp h.symm
      exact ⟨y, hy.symm, zs, hzs.symm, rfl⟩

theorem decode?_encode (t : Text) : decode? (encode t) = some t := by
  rw [decode?, scan_encode]
  exact mapM_id_eq_some_iff.mpr rfl

theorem encode_injective : Function.Injective encode := by
  intro t u h
  have hread := decode?_encode t
  rw [h, decode?_encode] at hread
  exact (Option.some.inj hread).symm

theorem notMem_normalizeNewlines (t : Text) : '\r' ∉ normalizeNewlines t := by
  fun_induction normalizeNewlines t with
  | case1 => simp
  | case2 t ih => simpa using ih
  | case3 c t _ ih =>
    rw [List.mem_cons, not_or]
    refine ⟨?_, ih⟩
    split
    next => decide
    next hc => exact Ne.symm hc

theorem normalizeNewlines_of_notMem (h : '\r' ∉ t) : normalizeNewlines t = t := by
  fun_induction normalizeNewlines t with
  | case1 => rfl
  | case2 t ih => simp at h
  | case3 c t _ ih =>
    rw [List.mem_cons, not_or] at h
    rw [if_neg (Ne.symm h.1), ih h.2]

theorem encode_normalizeNewlines_eq_iff :
    encode (normalizeNewlines t) = encode t ↔ '\r' ∉ t := by
  constructor
  · intro h
    rw [← encode_injective h]
    exact notMem_normalizeNewlines t
  · intro h
    rw [normalizeNewlines_of_notMem h]

end Stencil.Text
