import Stencil.Proofs.Text.Utf8

namespace Stencil.Text

section

variable {b c d e : UInt8} {v : Nat}

theorem toNat_ofNat_of_valid (h : v < 0xD800 ∨ 0xDFFF < v ∧ v < 0x110000) :
    (Char.ofNat v).toNat = v := by
  have hvalid : v.isValidChar := h
  rw [Char.ofNat, dif_pos hvalid]
  rfl

theorem ofNat_eq_of_eq_toNat (h : v = b.toNat) : UInt8.ofNat v = b := by
  rw [h, UInt8.ofNat_toNat]

theorem tailByte_eq (hlow : 0x80 ≤ b.toNat) (hhigh : b.toNat ≤ 0xBF)
    (hv : v % 64 = b.toNat - 0x80) : tailByte v = b :=
  ofNat_eq_of_eq_toNat (by omega)

theorem toNat_of_tail (hlow : 0x80 ≤ b) (hhigh : b ≤ 0xBF) : 0x80 ≤ b.toNat ∧ b.toNat ≤ 0xBF :=
  ⟨UInt8.le_iff_toNat_le.mp hlow, UInt8.le_iff_toNat_le.mp hhigh⟩

theorem utf8EncodeChar_one (hb : b.toNat < 0x80) :
    String.utf8EncodeChar (Char.ofNat b.toNat) = [b] := by
  have hc := toNat_ofNat_of_valid (v := b.toNat) (by omega)
  rw [utf8EncodeChar_eq hc, if_pos hb, UInt8.ofNat_toNat]

theorem utf8EncodeChar_two (hb : 0xC2 ≤ b.toNat ∧ b.toNat ≤ 0xDF)
    (hc : 0x80 ≤ c.toNat ∧ c.toNat ≤ 0xBF) (hv : v = (b.toNat - 0xC0) * 64 + (c.toNat - 0x80)) :
    String.utf8EncodeChar (Char.ofNat v) = [b, c] := by
  have hchar := toNat_ofNat_of_valid (v := v) (by omega)
  have hlead : UInt8.ofNat (v / 64 + 192) = b := ofNat_eq_of_eq_toNat (by omega)
  rw [utf8EncodeChar_eq hchar, if_neg (by omega), if_pos (by omega), hlead,
    tailByte_eq hc.1 hc.2 (by omega)]

/-- The ranges of the second byte leave out short and surrogate code points. -/
theorem utf8EncodeChar_three (hb : 0xE0 ≤ b.toNat ∧ b.toNat ≤ 0xEF)
    (hc : 0x80 ≤ c.toNat ∧ c.toNat ≤ 0xBF) (hd : 0x80 ≤ d.toNat ∧ d.toNat ≤ 0xBF)
    (hshort : b.toNat = 0xE0 → 0xA0 ≤ c.toNat) (hsurrogate : b.toNat = 0xED → c.toNat ≤ 0x9F)
    (hv : v = ((b.toNat - 0xE0) * 64 + (c.toNat - 0x80)) * 64 + (d.toNat - 0x80)) :
    String.utf8EncodeChar (Char.ofNat v) = [b, c, d] := by
  have hchar := toNat_ofNat_of_valid (v := v) (by omega)
  have hlead : UInt8.ofNat (v / 4096 + 224) = b := ofNat_eq_of_eq_toNat (by omega)
  rw [utf8EncodeChar_eq hchar, if_neg (by omega), if_neg (by omega), if_pos (by omega), hlead,
    tailByte_eq hc.1 hc.2 (by omega), tailByte_eq hd.1 hd.2 (by omega)]

/-- The ranges of the second byte leave out short and too large code points. -/
theorem utf8EncodeChar_four (hb : 0xF0 ≤ b.toNat ∧ b.toNat ≤ 0xF4)
    (hc : 0x80 ≤ c.toNat ∧ c.toNat ≤ 0xBF) (hd : 0x80 ≤ d.toNat ∧ d.toNat ≤ 0xBF)
    (he : 0x80 ≤ e.toNat ∧ e.toNat ≤ 0xBF) (hshort : b.toNat = 0xF0 → 0x90 ≤ c.toNat)
    (hlarge : b.toNat = 0xF4 → c.toNat ≤ 0x8F)
    (hv : v = (((b.toNat - 0xF0) * 64 + (c.toNat - 0x80)) * 64 + (d.toNat - 0x80)) * 64 +
      (e.toNat - 0x80)) :
    String.utf8EncodeChar (Char.ofNat v) = [b, c, d, e] := by
  have hchar := toNat_ofNat_of_valid (v := v) (by omega)
  have hlead : UInt8.ofNat (v / 262144 + 240) = b := ofNat_eq_of_eq_toNat (by omega)
  rw [utf8EncodeChar_eq hchar, if_neg (by omega), if_neg (by omega), if_neg (by omega), hlead,
    tailByte_eq hc.1 hc.2 (by omega), tailByte_eq hd.1 hd.2 (by omega),
    tailByte_eq he.1 he.2 (by omega)]

end

namespace Utf8State

/-- The bytes that are read of an open sequence begin a character. -/
inductive Opens : Utf8State → Bytes → Prop
  | ready : Opens ready []
  | last {low high : UInt8} {value : Nat} {read : Bytes}
      (h : ∀ b : UInt8, low ≤ b → b ≤ high →
        String.utf8EncodeChar (Char.ofNat (value * 64 + (b.toNat - 0x80))) = read ++ [b]) :
      Opens (within low high 0 value) read
  | more {low high : UInt8} {more value : Nat} {read : Bytes}
      (h : ∀ b : UInt8, low ≤ b → b ≤ high →
        Opens (within 0x80 0xBF more (value * 64 + (b.toNat - 0x80))) (read ++ [b])) :
      Opens (within low high (more + 1) value) read

section

variable {b low high : UInt8} {value : Nat}

theorem opens_two (hb : 0xC2 ≤ b.toNat ∧ b.toNat ≤ 0xDF) :
    Opens (within 0x80 0xBF 0 (b.toNat - 0xC0)) [b] := by
  refine .last fun c hlow hhigh => ?_
  exact utf8EncodeChar_two hb (toNat_of_tail hlow hhigh) rfl

theorem opens_three (hb : 0xE0 ≤ b.toNat ∧ b.toNat ≤ 0xEF) (hvalue : value = b.toNat - 0xE0)
    (hlow : 0x80 ≤ low.toNat) (hhigh : high.toNat ≤ 0xBF)
    (hshort : b.toNat = 0xE0 → 0xA0 ≤ low.toNat)
    (hsurrogate : b.toNat = 0xED → high.toNat ≤ 0x9F) :
    Opens (within low high 1 value) [b] := by
  refine .more fun c hc hc' => .last fun d hd hd' => ?_
  rw [UInt8.le_iff_toNat_le] at hc hc'
  have hsecond : 0x80 ≤ c.toNat ∧ c.toNat ≤ 0xBF := by omega
  have hthird := toNat_of_tail hd hd'
  rw [hvalue]
  exact utf8EncodeChar_three hb hsecond hthird (fun h => Nat.le_trans (hshort h) hc)
    (fun h => Nat.le_trans hc' (hsurrogate h)) rfl

theorem opens_four (hb : 0xF0 ≤ b.toNat ∧ b.toNat ≤ 0xF4) (hvalue : value = b.toNat - 0xF0)
    (hlow : 0x80 ≤ low.toNat) (hhigh : high.toNat ≤ 0xBF)
    (hshort : b.toNat = 0xF0 → 0x90 ≤ low.toNat) (hlarge : b.toNat = 0xF4 → high.toNat ≤ 0x8F) :
    Opens (within low high 2 value) [b] := by
  refine .more fun c hc hc' => .more fun d hd hd' => .last fun e he he' => ?_
  rw [UInt8.le_iff_toNat_le] at hc hc'
  have hsecond : 0x80 ≤ c.toNat ∧ c.toNat ≤ 0xBF := by omega
  have hthird := toNat_of_tail hd hd'
  have hfourth := toNat_of_tail he he'
  rw [hvalue]
  exact utf8EncodeChar_four hb hsecond hthird hfourth (fun h => Nat.le_trans (hshort h) hc)
    (fun h => Nat.le_trans hc' (hlarge h)) rfl

/-- The first byte of a sequence is a character, or it opens one, or it is malformed. -/
theorem lead_cases (b : UInt8) :
    b.toNat < 0x80 ∧ lead b = ([some (Char.ofNat b.toNat)], ready) ∨
      (∃ s, lead b = ([], s) ∧ Opens s [b]) ∨ lead b = ([none], ready) := by
  have hlead := lead_ofNat b.toNat_lt
  rw [UInt8.ofNat_toNat] at hlead
  -- the first bytes of three and of four differ in the range that they leave for the second
  split at hlead
  next hb => exact .inl ⟨hb, hlead⟩
  refine .inr ?_
  split at hlead
  next hb => exact .inl ⟨_, hlead, opens_two hb⟩
  split at hlead
  next hb =>
    refine .inl ⟨_, hlead, opens_three ?_ ?_ ?_ ?_ ?_ ?_⟩ <;> simp [hb]
  split at hlead
  next hb =>
    refine .inl ⟨_, hlead, opens_three ?_ ?_ ?_ ?_ ?_ ?_⟩ <;> simp [hb]
  split at hlead
  next hb =>
    exact .inl ⟨_, hlead, opens_three (by omega) rfl (by simp) (by simp) (by omega) (by omega)⟩
  split at hlead
  next hb =>
    refine .inl ⟨_, hlead, opens_four ?_ ?_ ?_ ?_ ?_ ?_⟩ <;> simp [hb]
  split at hlead
  next hb =>
    refine .inl ⟨_, hlead, opens_four ?_ ?_ ?_ ?_ ?_ ?_⟩ <;> simp [hb]
  split at hlead
  next hb =>
    exact .inl ⟨_, hlead, opens_four (by omega) rfl (by simp) (by simp) (by omega) (by omega)⟩
  next => exact .inr hlead

end

variable {s : Utf8State} {read bytes : Bytes} {low high b : UInt8} {more value : Nat} {t : Text}

theorem in_range_of_next (h : ((within low high more value).next b).1 = t.map some) :
    low ≤ b ∧ b ≤ high := by
  by_contra hout
  have hfalse : ¬ (decide (low ≤ b) && decide (b ≤ high)) = true := by simpa using hout
  rw [next, if_neg hfalse] at h
  have hmem : none ∈ t.map some := by
    rw [← h]
    exact List.mem_cons_self
  simp at hmem

/-- What a byte completes and what it leaves open is all that is read with it. -/
theorem Opens.next (hs : Opens s read) (h : (s.next b).1 = t.map some) :
    ∃ read', Opens (s.next b).2 read' ∧ read ++ [b] = encode t ++ read' := by
  cases hs with
  | ready =>
    rw [Utf8State.next] at h ⊢
    rcases lead_cases b with ⟨hb, hlead⟩ | ⟨s, hlead, hopens⟩ | hlead
    · rw [hlead] at h ⊢
      obtain ⟨c, rfl, hc⟩ := List.map_eq_singleton_iff.mp h.symm
      obtain rfl : c = Char.ofNat b.toNat := Option.some.inj hc
      exact ⟨[], .ready, by simp [encode, utf8EncodeChar_one hb]⟩
    · rw [hlead] at h ⊢
      obtain rfl : t = [] := List.map_eq_nil_iff.mp h.symm
      exact ⟨[b], hopens, rfl⟩
    · rw [hlead] at h
      obtain ⟨c, -, hc⟩ := List.map_eq_singleton_iff.mp h.symm
      cases hc
  | last hlast =>
    obtain ⟨hlow, hhigh⟩ := in_range_of_next h
    have hchar := hlast b hlow hhigh
    rw [Utf8State.next, if_pos (by simp [hlow, hhigh])] at h ⊢
    obtain ⟨c, rfl, hc⟩ := List.map_eq_singleton_iff.mp h.symm
    rw [← Option.some.inj hc] at hchar
    exact ⟨[], .ready, by rw [encode, List.flatMap_singleton, hchar, List.append_nil]⟩
  | more hmore =>
    obtain ⟨hlow, hhigh⟩ := in_range_of_next h
    rw [Utf8State.next, if_pos (by simp [hlow, hhigh])] at h ⊢
    obtain rfl : t = [] := List.map_eq_nil_iff.mp h.symm
    exact ⟨_, hmore b hlow hhigh, rfl⟩

/-- Bytes in which nothing is malformed are those that the text is written as. -/
theorem Opens.eq_encode (hs : Opens s read) (h : s.scan bytes = t.map some) :
    read ++ bytes = encode t := by
  induction bytes generalizing s read t with
  | nil =>
    cases hs with
    | ready =>
      obtain rfl : t = [] := List.map_eq_nil_iff.mp h.symm
      rfl
    | last _ | more _ =>
      obtain ⟨c, -, hc⟩ := List.map_eq_singleton_iff.mp h.symm
      cases hc
  | cons b bytes ih =>
    rw [scan] at h
    obtain ⟨t, u, rfl, hfirst, hrest⟩ := List.map_eq_append_iff.mp h.symm
    obtain ⟨read', hs', heq⟩ := hs.next hfirst.symm
    calc read ++ b :: bytes
        = (read ++ [b]) ++ bytes := by simp
      _ = encode t ++ (read' ++ bytes) := by rw [heq, List.append_assoc]
      _ = encode (t ++ u) := by rw [ih hs' hrest.symm, encode, encode, encode, List.flatMap_append]

end Utf8State

variable {bytes : Bytes} {t : Text}

/-- The bytes that are read are those that a text is written as. -/
theorem decode?_eq_some_iff : decode? bytes = some t ↔ encode t = bytes := by
  constructor
  · intro h
    exact (Utf8State.Opens.ready.eq_encode (mapM_id_eq_some_iff.mp h)).symm
  · rintro rfl
    exact decode?_encode t

/-- Are what some text is written as. -/
def IsUtf8 (bytes : Bytes) : Prop :=
  ∃ t, encode t = bytes

theorem decode?_eq_none_iff : decode? bytes = none ↔ ¬ IsUtf8 bytes := by
  rw [Option.eq_none_iff_forall_ne_some, IsUtf8, not_exists]
  simp only [ne_eq, decode?_eq_some_iff]

end Stencil.Text
