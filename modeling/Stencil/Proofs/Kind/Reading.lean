import Mathlib.Data.List.Basic
import Stencil.Kind
import Stencil.Proofs.Text.Ascii

namespace Stencil.Kind

open Text (IsAscii isAscii_append isAscii_cons isMark_colon isMark_slash)

/-- The kind of a path and a version. -/
def ofPath (path : Text) (version : Option Text) : Kind :=
  match Text.cut? ['/'] path with
  | some (handle, name) => ⟨handle, name, version⟩
  | none => ⟨[], path, version⟩

theorem ofPath_append {handle : Text} (name : Text) (version : Option Text) (h : '/' ∉ handle) :
    ofPath (handle ++ '/' :: name) version = ⟨handle, name, version⟩ := by
  rw [ofPath, Text.cut?_singleton_eq_some_iff.mpr ⟨rfl, h⟩]

theorem ofPath_of_notMem {path : Text} (version : Option Text) (h : '/' ∉ path) :
    ofPath path version = ⟨[], path, version⟩ := by
  rw [ofPath, Text.cut?_singleton_eq_none_iff.mpr h]

theorem parse_of_body {t path v : Text} (hbody : body t = path ++ ':' :: v) (hpath : ':' ∉ path) :
    parse t = ofPath path (if v.isEmpty then none else some v) := by
  have hcut : Text.cut? ":" (body t) = some (path, v) :=
    Text.cut?_singleton_eq_some_iff.mpr ⟨hbody, hpath⟩
  rw [parse, hcut]
  rfl

theorem parse_of_body_of_notMem {t : Text} (hbody : ':' ∉ body t) :
    parse t = ofPath (body t) none := by
  have hcut : Text.cut? ":" (body t) = none := Text.cut?_singleton_eq_none_iff.mpr hbody
  rw [parse, hcut]
  rfl

/-- A kind of ASCII texts that could have been read. -/
structure IsPlain (k : Kind) : Prop where
  handle : IsAscii k.handle
  name : IsAscii k.name
  version : ∀ v ∈ k.version, IsAscii v ∧ v ≠ []
  slash_notMem_handle : '/' ∉ k.handle
  colon_notMem_handle : ':' ∉ k.handle
  colon_notMem_name : ':' ∉ k.name

/-- The kind in small letters. -/
def lowered (k : Kind) : Kind :=
  ⟨Text.lower k.handle, Text.lower k.name, k.version.map Text.lower⟩

section

variable {t path : Text} {version : Option Text}

theorem isPlain_ofPath (hpath : IsAscii path) (hcolon : ':' ∉ path)
    (hversion : ∀ v ∈ version, IsAscii v ∧ v ≠ []) : (ofPath path version).IsPlain := by
  by_cases hslash : '/' ∈ path
  · obtain ⟨handle, name, rfl, hhandle⟩ := List.eq_append_cons_of_mem hslash
    obtain ⟨ha, hrest⟩ := isAscii_append.mp hpath
    rw [List.mem_append, List.mem_cons, not_or, not_or] at hcolon
    rw [ofPath_append name version hhandle]
    exact ⟨ha, (isAscii_cons.mp hrest).2, hversion, hhandle, hcolon.1, hcolon.2.2⟩
  · rw [ofPath_of_notMem version hslash]
    exact ⟨by simp [IsAscii], hpath, hversion, by simp, by simp, hcolon⟩

theorem lowered_ofPath (hpath : IsAscii path) :
    (ofPath path version).lowered = ofPath (Text.lower path) (version.map Text.lower) := by
  rw [ofPath, ofPath, hpath.cut?_lower isMark_slash]
  cases Text.cut? ['/'] path with
  | none => rfl
  | some sides => rfl

theorem body_eq (t : Text) : body t =
    if protocol <+: Text.lower (Text.strip t) then (Text.strip t).drop protocol.length
    else Text.strip t := by
  simp only [body, Text.startsWith, List.isPrefixOf_iff_prefix]

theorem body_subset (t : Text) : body t ⊆ t := by
  rw [body_eq]
  split
  next => exact fun c hc => Text.strip_subset t (List.drop_subset _ _ hc)
  next => exact Text.strip_subset t

theorem body_lower (h : IsAscii t) : body (Text.lower t) = Text.lower (body t) := by
  have hstrip := h.of_subset (Text.strip_subset t)
  rw [body_eq, body_eq, h.strip_lower, hstrip.lower_lower]
  split
  next =>
    rw [hstrip.lower_eq_map, (hstrip.of_subset (List.drop_subset _ _)).lower_eq_map, List.map_drop]
  next => rfl

theorem isPlain_parse (h : IsAscii t) : (parse t).IsPlain := by
  have hbody := h.of_subset (body_subset t)
  by_cases hcolon : ':' ∈ body t
  · obtain ⟨path, v, heq, hpath⟩ := List.eq_append_cons_of_mem hcolon
    rw [heq] at hbody
    obtain ⟨hp, hrest⟩ := isAscii_append.mp hbody
    rw [parse_of_body heq hpath]
    refine isPlain_ofPath hp hpath fun w hw => ?_
    split at hw
    next => simp at hw
    next hv =>
      cases Option.some.inj hw
      exact ⟨(isAscii_cons.mp hrest).2, by simpa using hv⟩
  · rw [parse_of_body_of_notMem hcolon]
    exact isPlain_ofPath hbody hcolon (by simp)

theorem parse_lower (h : IsAscii t) : parse (Text.lower t) = (parse t).lowered := by
  have hbody := h.of_subset (body_subset t)
  by_cases hcolon : ':' ∈ body t
  · obtain ⟨path, v, heq, hpath⟩ := List.eq_append_cons_of_mem hcolon
    have hascii := heq ▸ hbody
    obtain ⟨hp, hrest⟩ := isAscii_append.mp hascii
    have hv := (isAscii_cons.mp hrest).2
    have hlower : body (Text.lower t) = Text.lower path ++ ':' :: Text.lower v := by
      rw [body_lower h, heq, hp.lower_append hrest, hv.lower_cons isMark_colon (by decide)]
    rw [parse_of_body hlower (by rwa [hp.mem_lower isMark_colon]), parse_of_body heq hpath,
      lowered_ofPath hp, hv.isEmpty_lower]
    split <;> rfl
  · rw [parse_of_body_of_notMem hcolon, lowered_ofPath hbody, ← body_lower h]
    refine parse_of_body_of_notMem ?_
    rwa [body_lower h, hbody.mem_lower isMark_colon]

end

end Stencil.Kind
