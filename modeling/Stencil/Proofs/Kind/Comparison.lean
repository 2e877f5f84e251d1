import Stencil.Proofs.Kind.Reading

namespace Stencil.Kind

open Text (IsAscii isAscii_append isAscii_cons isMark_colon isMark_slash)

variable {k l : Kind}

/-- Two kinds have the same handle and the same name in small letters. -/
def HasNameOf (k l : Kind) : Prop :=
  Text.lower k.handle = Text.lower l.handle ∧ Text.lower k.name = Text.lower l.name

instance (k l : Kind) : Decidable (k.HasNameOf l) :=
  inferInstanceAs (Decidable (_ ∧ _))

/-- Neither the handle nor the name is missing. -/
def IsNamed (k : Kind) : Prop :=
  k.handle ≠ [] ∧ k.name ≠ []

instance (k : Kind) : Decidable k.IsNamed :=
  inferInstanceAs (Decidable (_ ∧ _))

theorem HasNameOf.isNamed_iff (hk : k.IsPlain) (hl : l.IsPlain) (h : k.HasNameOf l) :
    k.IsNamed ↔ l.IsNamed := by
  have hhandle := congrArg List.isEmpty h.1
  have hname := congrArg List.isEmpty h.2
  rw [hk.handle.isEmpty_lower, hl.handle.isEmpty_lower] at hhandle
  rw [hk.name.isEmpty_lower, hl.name.isEmpty_lower] at hname
  simp only [IsNamed, ne_eq, ← List.isEmpty_iff, hhandle, hname]

/-- The text of a version. -/
def versionTail (version : Option Text) : Text :=
  match version with
  | some v => ':' :: v
  | none => []

/-- The kind in full. -/
def uri (k : Kind) : Text :=
  protocol ++ (k.handle ++ '/' :: (k.name ++ versionTail k.version))

theorem IsPlain.lowered (h : k.IsPlain) : k.lowered.IsPlain where
  handle := h.handle.lower
  name := h.name.lower
  version := by
    intro w hw
    obtain ⟨v, hv, rfl⟩ := Option.map_eq_some_iff.mp hw
    obtain ⟨hascii, hne⟩ := h.version v hv
    refine ⟨hascii.lower, ?_⟩
    rwa [Ne, ← List.isEmpty_iff, hascii.isEmpty_lower, List.isEmpty_iff]
  slash_notMem_handle := mt (h.handle.mem_lower isMark_slash).mp h.slash_notMem_handle
  colon_notMem_handle := mt (h.handle.mem_lower isMark_colon).mp h.colon_notMem_handle
  colon_notMem_name := mt (h.name.mem_lower isMark_colon).mp h.colon_notMem_name

theorem IsPlain.lowered_lowered (h : k.IsPlain) : k.lowered.lowered = k.lowered := by
  have hversion : (k.version.map Text.lower).map Text.lower = k.version.map Text.lower := by
    rw [Option.map_map]
    exact Option.map_congr fun v hv => (h.version v hv).1.lower_lower
  rw [Kind.lowered, Kind.lowered, h.handle.lower_lower, h.name.lower_lower, hversion]

theorem IsPlain.isAscii_versionTail (h : k.IsPlain) : IsAscii (versionTail k.version) := by
  cases hv : k.version with
  | none => simp [versionTail, IsAscii]
  | some v => exact isAscii_cons.mpr ⟨by decide, (h.version v hv).1⟩

theorem IsPlain.lower_versionTail (h : k.IsPlain) :
    Text.lower (versionTail k.version) = versionTail k.lowered.version := by
  cases hv : k.version with
  | none =>
    rw [Kind.lowered, hv]
    rfl
  | some v =>
    rw [Kind.lowered, hv, versionTail, (h.version v hv).1.lower_cons isMark_colon (by decide)]
    rfl

theorem IsPlain.lower_uri (h : k.IsPlain) : Text.lower k.uri = k.lowered.uri := by
  have htail := isAscii_append.mpr ⟨h.name, h.isAscii_versionTail⟩
  have hrest := isAscii_cons.mpr ⟨show '/'.toNat < 0x80 by decide, htail⟩
  rw [uri, IsAscii.lower_append (by decide) (isAscii_append.mpr ⟨h.handle, hrest⟩),
    h.handle.lower_append hrest, htail.lower_cons isMark_slash (by decide),
    h.name.lower_append h.isAscii_versionTail, h.lower_versionTail]
  rfl

theorem IsPlain.normalized_eq (h : k.IsPlain) : k.normalized = k.lowered.uri := by
  rw [← h.lower_uri, uri, normalized]
  cases hv : k.version with
  | none => simp [versionTail]
  | some v => simp [versionTail, (h.version v hv).2]

theorem versionTail_inj {name name' : Text} {version version' : Option Text} (h : ':' ∉ name)
    (h' : ':' ∉ name') (heq : name ++ versionTail version = name' ++ versionTail version') :
    name = name' ∧ version = version' := by
  cases version with
  | none =>
    cases version' with
    | none => simpa [versionTail] using heq
    | some v' =>
      have hmem : ':' ∈ name ++ versionTail none := heq ▸ by simp [versionTail]
      exact absurd (by simpa [versionTail] using hmem) h
  | some v =>
    cases version' with
    | none =>
      have hmem : ':' ∈ name' ++ versionTail none := heq ▸ by simp [versionTail]
      exact absurd (by simpa [versionTail] using hmem) h'
    | some v' =>
      obtain ⟨hname, hv⟩ := (Text.append_cons_inj h h').mp heq
      exact ⟨hname, congrArg some hv⟩

theorem eq_of_uri_eq (hk : k.IsPlain) (hl : l.IsPlain) (h : k.uri = l.uri) : k = l := by
  obtain ⟨hhandle, hrest⟩ := (Text.append_cons_inj hk.slash_notMem_handle hl.slash_notMem_handle).mp
    (List.append_cancel_left h)
  obtain ⟨hname, hversion⟩ := versionTail_inj hk.colon_notMem_name hl.colon_notMem_name hrest
  cases k
  cases l
  simp_all

/-- Kinds that are the same in full have the same parts in small letters. -/
theorem normalized_eq_iff (hk : k.IsPlain) (hl : l.IsPlain) :
    k.normalized = l.normalized ↔ k.lowered = l.lowered := by
  rw [hk.normalized_eq, hl.normalized_eq]
  exact ⟨eq_of_uri_eq hk.lowered hl.lowered, congrArg uri⟩

theorem fullName_of_isNamed (h : k.IsNamed) :
    k.fullName = Text.lower (k.handle ++ '/' :: k.name) := by
  rw [fullName, if_neg]
  simpa [IsNamed, not_or] using h

theorem fullName_of_not_isNamed (h : ¬ k.IsNamed) : k.fullName = [] := by
  rw [fullName, if_pos]
  simpa [IsNamed, Classical.or_iff_not_imp_left] using h

theorem IsPlain.fullName_eq (h : k.IsPlain) (hnamed : k.IsNamed) :
    k.fullName = Text.lower k.handle ++ '/' :: Text.lower k.name := by
  have hrest := isAscii_cons.mpr ⟨show '/'.toNat < 0x80 by decide, h.name⟩
  rw [fullName_of_isNamed hnamed, h.handle.lower_append hrest,
    h.name.lower_cons isMark_slash (by decide)]

/-- The full name tells the handle and the name, and which kinds lack one of them. -/
theorem fullName_eq_iff (hk : k.IsPlain) (hl : l.IsPlain) :
    k.fullName = l.fullName ↔ (k.IsNamed ∧ k.HasNameOf l) ∨ (¬ k.IsNamed ∧ ¬ l.IsNamed) := by
  by_cases hkn : k.IsNamed
  · by_cases hln : l.IsNamed
    · have hks : '/' ∉ Text.lower k.handle := hk.lowered.slash_notMem_handle
      have hls : '/' ∉ Text.lower l.handle := hl.lowered.slash_notMem_handle
      rw [hk.fullName_eq hkn, hl.fullName_eq hln, Text.append_cons_inj hks hls]
      simp [hkn, hln, HasNameOf]
    · have hnot : ¬ k.HasNameOf l := fun h => hln ((h.isNamed_iff hk hl).mp hkn)
      rw [hk.fullName_eq hkn, fullName_of_not_isNamed hln]
      simp [hkn, hnot]
  · by_cases hln : l.IsNamed
    · rw [fullName_of_not_isNamed hkn, hl.fullName_eq hln]
      simp [hkn, hln]
    · rw [fullName_of_not_isNamed hkn, fullName_of_not_isNamed hln]
      simp [hkn, hln]

theorem IsPlain.fullName_lowered (h : k.IsPlain) : k.lowered.fullName = k.fullName := by
  have hname : k.lowered.HasNameOf k := ⟨h.handle.lower_lower, h.name.lower_lower⟩
  have hnamed := hname.isNamed_iff h.lowered h
  rw [fullName_eq_iff h.lowered h]
  by_cases hk : k.lowered.IsNamed
  · exact Or.inl ⟨hk, hname⟩
  · exact Or.inr ⟨hk, mt hnamed.mpr hk⟩

end Stencil.Kind
