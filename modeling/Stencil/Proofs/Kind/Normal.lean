import Stencil.Proofs.Kind.Comparison

namespace Stencil.Kind

open Text (IsAscii IsVisible isAscii_append isAscii_cons isVisible_append isVisible_cons)

variable {k : Kind} {t path : Text} {version : Option Text}

theorem parse_of_body_versionTail (hbody : body t = path ++ versionTail version)
    (hpath : ':' ∉ path) (hversion : ∀ v ∈ version, v ≠ []) : parse t = ofPath path version := by
  cases version with
  | none =>
    have hread : body t = path := hbody.trans (List.append_nil path)
    rw [parse_of_body_of_notMem (hread ▸ hpath), hread]
  | some v =>
    have hne : ¬ v.isEmpty = true := by simpa using hversion v rfl
    rw [parse_of_body hbody hpath, if_neg hne]

theorem body_protocol_append (h : IsVisible (protocol ++ t)) (hascii : IsAscii t) :
    body (protocol ++ t) = t := by
  have hlower : Text.lower (protocol ++ t) = protocol ++ Text.lower t :=
    IsAscii.lower_append (by decide) hascii
  rw [body_eq, Text.strip_of_forall h, hlower, if_pos (List.prefix_append _ _), List.drop_left]

theorem IsPlain.isAscii_uri (h : k.IsPlain) : IsAscii k.uri := by
  have hname := isAscii_append.mpr ⟨h.name, h.isAscii_versionTail⟩
  have hslash := isAscii_cons.mpr ⟨show '/'.toNat < 0x80 by decide, hname⟩
  exact isAscii_append.mpr ⟨by decide, isAscii_append.mpr ⟨h.handle, hslash⟩⟩

/-- A kind that could have been read is read from its text in full. -/
theorem IsPlain.parse_uri (h : k.IsPlain) (hvisible : IsVisible k.uri) : parse k.uri = k := by
  have hascii := (isAscii_append.mp h.isAscii_uri).2
  have hbody : body k.uri = (k.handle ++ '/' :: k.name) ++ versionTail k.version := by
    rw [uri, body_protocol_append hvisible hascii, List.append_assoc, List.cons_append]
  have hpath : ':' ∉ k.handle ++ '/' :: k.name := by
    rw [List.mem_append, List.mem_cons]
    rintro (hmem | hmem | hmem)
    · exact h.colon_notMem_handle hmem
    · exact absurd hmem (by decide)
    · exact h.colon_notMem_name hmem
  have hversion : ∀ v ∈ k.version, v ≠ [] := fun v hv => (h.version v hv).2
  rw [parse_of_body_versionTail hbody hpath hversion, ofPath_append _ _ h.slash_notMem_handle]

theorem isVisible_uri_ofPath (hpath : IsVisible path) (hversion : IsVisible (versionTail version)) :
    IsVisible (ofPath path version).uri := by
  have hprotocol : IsVisible protocol := by decide
  have hmark : Text.isBlankChar '/' = false := by decide
  by_cases hslash : '/' ∈ path
  · obtain ⟨handle, name, rfl, hhandle⟩ := List.eq_append_cons_of_mem hslash
    obtain ⟨hh, hrest⟩ := isVisible_append.mp hpath
    have hname := isVisible_append.mpr ⟨(isVisible_cons.mp hrest).2, hversion⟩
    rw [ofPath_append name version hhandle]
    exact isVisible_append.mpr
      ⟨hprotocol, isVisible_append.mpr ⟨hh, isVisible_cons.mpr ⟨hmark, hname⟩⟩⟩
  · have hname := isVisible_append.mpr ⟨hpath, hversion⟩
    rw [ofPath_of_notMem version hslash]
    exact isVisible_append.mpr ⟨hprotocol, isVisible_cons.mpr ⟨hmark, hname⟩⟩

theorem isVisible_uri_parse (h : IsVisible t) : IsVisible (parse t).uri := by
  have hbody : IsVisible (body t) := fun c hc => h c (body_subset t hc)
  by_cases hcolon : ':' ∈ body t
  · obtain ⟨path, v, heq, hpath⟩ := List.eq_append_cons_of_mem hcolon
    rw [heq] at hbody
    obtain ⟨hp, hv⟩ := isVisible_append.mp hbody
    rw [parse_of_body heq hpath]
    refine isVisible_uri_ofPath hp ?_
    split
    next => decide
    next => exact hv
  · rw [parse_of_body_of_notMem hcolon]
    exact isVisible_uri_ofPath hbody (by decide)

theorem normalize_eq (h : IsAscii t) : normalize t = (parse t).lowered.uri :=
  (isPlain_parse h).normalized_eq

theorem parse_normalize (hascii : IsAscii t) (hvisible : IsVisible t) :
    parse (normalize t) = (parse t).lowered := by
  have hplain := isPlain_parse hascii
  have huri : IsVisible (parse t).lowered.uri := by
    rw [← hplain.lower_uri]
    exact hplain.isAscii_uri.isVisible_lower (isVisible_uri_parse hvisible)
  rw [normalize_eq hascii, hplain.lowered.parse_uri huri]

/-- From the normal form of a text without white space the parts are read in small letters, so it is
its own normal form, and the full name is that of the text. -/
theorem normalize_keeps_parts (hascii : IsAscii t) (hvisible : IsVisible t) :
    (parse (normalize t)).handle = Text.lower (parse t).handle ∧
      (parse (normalize t)).name = Text.lower (parse t).name ∧
      (parse (normalize t)).version = (parse t).version.map Text.lower ∧
      normalize (normalize t) = normalize t ∧
      (parse (normalize t)).fullName = (parse t).fullName := by
  have hplain := isPlain_parse hascii
  have hparse := parse_normalize hascii hvisible
  have hagain : normalize (normalize t) = normalize t := by
    calc normalize (normalize t)
        = (parse t).lowered.normalized := congrArg normalized hparse
      _ = (parse t).lowered.lowered.uri := hplain.lowered.normalized_eq
      _ = normalize t := by rw [hplain.lowered_lowered, normalize_eq hascii]
  rw [hparse]
  exact ⟨rfl, rfl, rfl, hagain, hplain.fullName_lowered⟩

/-- A kind with two protocols, slashes that part nothing and a colon too many. -/
def twiceWritten : Text :=
  "KAPETA://Kapeta://Acme//DB:1.0:RC/x"

theorem normalize_keeps_parts_twiceWritten :
    IsAscii twiceWritten ∧ IsVisible twiceWritten ∧
      parse twiceWritten = ⟨[], "Kapeta", some "//Acme//DB:1.0:RC/x"⟩ ∧
      (parse (normalize twiceWritten)).version = some ("//acme//db:1.0:rc/x" : Text) ∧
      normalize (normalize twiceWritten) = normalize twiceWritten := by
  have hascii : IsAscii twiceWritten := by decide
  have hvisible : IsVisible twiceWritten := by decide
  have hparts : parse twiceWritten = ⟨[], "Kapeta", some "//Acme//DB:1.0:RC/x"⟩ := by decide
  obtain ⟨-, -, hversion, hagain, -⟩ := normalize_keeps_parts hascii hvisible
  refine ⟨hascii, hvisible, hparts, ?_, hagain⟩
  rw [hversion, hparts]
  decide

/-- White space in front of a colon with nothing behind it is not read again. -/
example :
    (parse "a/b :").name = ("b " : Text) ∧ (parse (normalize "a/b :")).name = ("b" : Text) := by
  decide

end Stencil.Kind
