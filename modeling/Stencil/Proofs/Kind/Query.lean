import Stencil.Proofs.Kind.Request
import Stencil.Proofs.Text.Lines

namespace Stencil.Kind

open Text (IsAscii IsVisible isAscii_append isAscii_cons isMark_colon isMark_slash isVisible_append
  isVisible_cons)

/-- A text that may stand for a request behind the protocol. -/
structure IsBare (t : Text) : Prop where
  isAscii : IsAscii t
  isVisible : IsVisible t
  slashes : t.count '/' ≤ 1

section

variable {t : Text}

theorem IsBare.lower (h : IsBare t) : IsBare (Text.lower t) where
  isAscii := h.isAscii.lower
  isVisible := h.isAscii.isVisible_lower h.isVisible
  slashes := by
    rw [h.isAscii.count_lower isMark_slash]
    exact h.slashes

theorem IsBare.of_subset {s : Text} (h : IsBare t) (hs : s.Sublist t) : IsBare s where
  isAscii := h.isAscii.of_subset hs.subset
  isVisible := fun c hc => h.isVisible c (hs.subset hc)
  slashes := (hs.count_le '/').trans h.slashes

/-- The protocol has two slashes. -/
theorem IsBare.no_protocol (h : IsBare t) : ¬ protocol <:+: t := by
  intro hinfix
  have hcount := hinfix.sublist.count_le '/'
  have htwo : protocol.count '/' = 2 := by decide
  have := h.slashes
  omega

theorem IsBare.body_eq (h : IsBare t) : body t = t := by
  rw [Kind.body_eq, Text.strip_of_forall h.isVisible, if_neg]
  exact fun hprefix => h.lower.no_protocol hprefix.isInfix

theorem IsBare.body_protocol_append (h : IsBare t) : body (protocol ++ t) = t := by
  have hprotocol : IsAscii protocol := by decide
  have hlower : Text.lower protocol = protocol := by decide
  have hvisible : IsVisible (protocol ++ t) := isVisible_append.mpr ⟨by decide, h.isVisible⟩
  rw [Kind.body_eq, Text.strip_of_forall hvisible, hprotocol.lower_append h.isAscii, hlower,
    if_pos (List.prefix_append _ _), List.drop_left]

theorem IsBare.parse_protocol_append (h : IsBare t) : parse (protocol ++ t) = parse t := by
  rw [parse, parse, h.body_protocol_append, h.body_eq]

theorem IsBare.withoutProtocol_eq (h : IsBare t) : withoutProtocol t = t := by
  rw [withoutProtocol, Text.partition, Text.cut?_eq_none_iff.mpr h.no_protocol]
  exact List.append_nil t

theorem withoutProtocol_append (t : Text) : withoutProtocol (protocol ++ t) = t := by
  rw [withoutProtocol, Text.partition, Text.cut?_mark_append (by decide)]
  rfl

theorem star_suffix_append {s : Text} (h : t = [] → ¬ ['*'] <:+ s) :
    ['*'] <:+ s ++ t ↔ ['*'] <:+ t := by
  by_cases ht : t = []
  · subst t
    simpa using h rfl
  · rw [List.singleton_suffix_iff_getLast?_eq_some, List.singleton_suffix_iff_getLast?_eq_some,
      List.getLast?_append_of_ne_nil s ht]

theorem IsBare.ofLower_protocol_append (h : IsBare t) :
    Request.ofLower (protocol ++ t) = Request.ofLower t := by
  by_cases hstar : ['*'] <:+ t
  · obtain ⟨start, rfl⟩ := hstar
    have hstart := (h.of_subset (List.sublist_append_left start _)).no_protocol
    have hnone := Text.after?_eq_none_iff.mpr (mt List.IsPrefix.isInfix hstart)
    rw [← List.append_assoc, Request.ofLower_star, Request.ofLower_star, hnone,
      Text.after?_eq_some_iff.mpr rfl]
    rfl
  · have hstar' := mt (star_suffix_append fun _ => (by decide : ¬ ['*'] <:+ protocol)).mp hstar
    rw [Request.ofLower_of_not_starred hstar',
      Request.ofLower_of_not_starred hstar, withoutProtocol_append, h.withoutProtocol_eq,
      h.parse_protocol_append]

/-- The text is written in any letters, with the protocol in front or without it. -/
def Spells (r t : Text) : Prop :=
  Text.lower r = Text.lower t ∨ Text.lower r = Text.lower (protocol ++ t)

theorem IsBare.parse_of_spells {r : Text} (h : IsBare t) (hr : Spells r t) :
    Request.parse r = Request.parse t := by
  rcases hr with heq | heq
  · rw [Request.parse, Request.parse, heq]
  · have hprotocol : IsAscii protocol := by decide
    have hlower : Text.lower protocol = protocol := by decide
    rw [Request.parse, Request.parse, heq, hprotocol.lower_append h.isAscii, hlower,
      h.lower.ofLower_protocol_append]

theorem IsBare.asksVersion_iff (h : IsBare t) : AsksVersion t ↔ ':' ∈ t := by
  rw [AsksVersion, h.lower.withoutProtocol_eq, h.isAscii.mem_lower isMark_colon]

end

/-- A text of ASCII characters that can be seen, without a slash. -/
structure IsWord (t : Text) : Prop where
  isAscii : IsAscii t
  isVisible : IsVisible t
  slash_notMem : '/' ∉ t

/-- A handle or a name as a request may have it. -/
structure IsPart (t : Text) : Prop extends IsWord t where
  ne_nil : t ≠ []
  colon_notMem : ':' ∉ t

section

variable {s t : Text}

theorem IsWord.append (hs : IsWord s) (ht : IsWord t) : IsWord (s ++ t) where
  isAscii := isAscii_append.mpr ⟨hs.isAscii, ht.isAscii⟩
  isVisible := isVisible_append.mpr ⟨hs.isVisible, ht.isVisible⟩
  slash_notMem := List.mem_append.not.mpr (not_or.mpr ⟨hs.slash_notMem, ht.slash_notMem⟩)

theorem IsWord.cons {c : Char} (hc : c.toNat < 0x80 ∧ Text.isBlankChar c = false ∧ '/' ≠ c)
    (ht : IsWord t) : IsWord (c :: t) where
  isAscii := isAscii_cons.mpr ⟨hc.1, ht.isAscii⟩
  isVisible := isVisible_cons.mpr ⟨hc.2.1, ht.isVisible⟩
  slash_notMem := List.mem_cons.not.mpr (not_or.mpr ⟨hc.2.2, ht.slash_notMem⟩)

theorem IsWord.of_sublist (ht : IsWord t) (hs : s.Sublist t) : IsWord s where
  isAscii := ht.isAscii.of_subset hs.subset
  isVisible := fun c hc => ht.isVisible c (hs.subset hc)
  slash_notMem := mt (fun h => hs.subset h) ht.slash_notMem

theorem IsWord.isBare_append (hs : IsWord s) (ht : IsWord t) : IsBare (s ++ '/' :: t) where
  isAscii := isAscii_append.mpr ⟨hs.isAscii, isAscii_cons.mpr ⟨by decide, ht.isAscii⟩⟩
  isVisible := isVisible_append.mpr
    ⟨hs.isVisible, isVisible_cons.mpr ⟨by decide, ht.isVisible⟩⟩
  slashes := by
    rw [List.count_append, List.count_cons_self, List.count_eq_zero.mpr hs.slash_notMem,
      List.count_eq_zero.mpr ht.slash_notMem]

end

/-- A request in good form. -/
inductive Query
  /-- It asks for a handle and all names that begin in some way. -/
  | starting (handle start : Text)
  /-- It asks for a handle and a name, in any version. -/
  | named (handle name : Text)
  | versioned (handle name version : Text)

namespace Query

def text : Query → Text
  | starting handle start => handle ++ '/' :: (start ++ ['*'])
  | named handle name => handle ++ '/' :: name
  | versioned handle name version => handle ++ '/' :: (name ++ ':' :: version)

inductive IsWellFormed : Query → Prop
  | starting {handle name start : Text} (hhandle : IsPart handle) (hname : IsPart name)
    (hstar : ¬ ['*'] <:+ name) (hstart : start <+: name) : IsWellFormed (.starting handle start)
  | named {handle name : Text} (hhandle : IsPart handle) (hname : IsPart name)
    (hstar : ¬ ['*'] <:+ name) : IsWellFormed (.named handle name)
  | versioned {handle name version : Text} (hhandle : IsPart handle) (hname : IsPart name)
    (hstar : ¬ ['*'] <:+ name) (hversion : IsWord version) (hne : version ≠ [])
    (hstar' : ¬ ['*'] <:+ version) : IsWellFormed (.versioned handle name version)

/-- A kind is one of those that a request asks for. -/
def IsMetBy (k : Kind) : Query → Prop
  | starting handle start => k.IsNamed ∧
    Text.lower (handle ++ '/' :: start) <+: Text.lower (k.handle ++ '/' :: k.name)
  | named handle name =>
    Text.lower handle = Text.lower k.handle ∧ Text.lower name = Text.lower k.name
  | versioned handle name version =>
    Text.lower handle = Text.lower k.handle ∧ Text.lower name = Text.lower k.name ∧
      some (Text.lower version) = k.version.map Text.lower

instance (k : Kind) : (q : Query) → Decidable (q.IsMetBy k)
  | starting _ _ => inferInstanceAs (Decidable (_ ∧ _))
  | named _ _ => inferInstanceAs (Decidable (_ ∧ _))
  | versioned _ _ _ => inferInstanceAs (Decidable (_ ∧ _ ∧ _))

variable {q : Query}

theorem IsWellFormed.isBare (h : q.IsWellFormed) : IsBare q.text := by
  cases h with
  | starting hhandle hname hstar hstart =>
    have hend : IsWord ['*'] := ⟨by decide, by decide, by decide⟩
    exact hhandle.isBare_append ((hname.of_sublist hstart.sublist).append hend)
  | named hhandle hname hstar => exact hhandle.isBare_append hname.toIsWord
  | versioned hhandle hname hstar hversion hne hstar' =>
    exact hhandle.isBare_append (hname.append (hversion.cons (by decide)))

/-- A kind that a request asks for has a handle, so its text is not empty. -/
theorem IsWellFormed.ne_nil {k : Text} (h : q.IsWellFormed) (hmet : q.IsMetBy (parse k)) :
    k ≠ [] := by
  have hhandle : ∀ {handle : Text}, IsPart handle →
      Text.lower handle = Text.lower (parse k).handle → k ≠ [] := by
    rintro handle hpart heq rfl
    have hempty := hpart.isAscii.isEmpty_lower
    rw [heq] at hempty
    exact hpart.ne_nil (List.isEmpty_iff.mp hempty.symm)
  cases h with
  | starting hpart hname hstar hstart =>
    rintro rfl
    exact hmet.1.1 rfl
  | named hpart hname hstar => exact hhandle hpart hmet.1
  | versioned hpart hname hstar hversion hne hstar' => exact hhandle hpart hmet.1

section

variable {k : Text} {resource : Value} (hk : IsAscii k)
  (hkind : (resource.read "kind").asText? = some k)

include hkind

theorem isMatch_starting_iff {handle start : Text}
    (hbare : IsBare (starting handle start).text) :
    isMatch (starting handle start).text resource = true ↔
      k ≠ [] ∧ (starting handle start).IsMetBy (parse k) := by
  have hascii := hbare.isAscii
  have htext : (starting handle start).text = handle ++ '/' :: start ++ ['*'] := by
    rw [text, List.append_assoc, List.cons_append]
  rw [htext] at hbare hascii ⊢
  obtain ⟨hstart, hend⟩ := isAscii_append.mp hascii
  have hnone : Text.after? protocol (Text.lower (handle ++ '/' :: start)) = none := by
    have hbare' := (hbare.of_subset (List.sublist_append_left _ _)).lower
    exact Text.after?_eq_none_iff.mpr (mt List.IsPrefix.isInfix hbare'.no_protocol)
  have hrequest : Request.parse (handle ++ '/' :: start ++ ['*']) =
      .starting (Text.lower (handle ++ '/' :: start)) := by
    rw [Request.parse, hstart.lower_append hend]
    exact (Request.ofLower_star _).trans (by rw [hnone]; rfl)
  rw [isMatch_iff_admits hkind, hrequest, Request.admits, Text.startsWith,
    List.isPrefixOf_iff_prefix]
  refine and_congr_right fun _ => ?_
  by_cases hnamed : (parse k).IsNamed
  · simp [IsMetBy, hnamed, fullName_of_isNamed]
  · -- The full name is empty, and nothing but the empty text begins it.
    have hne : Text.lower (handle ++ '/' :: start) ≠ [] := by
      rw [Ne, ← List.isEmpty_iff, hstart.isEmpty_lower]
      simp
    simp [IsMetBy, hnamed, fullName_of_not_isNamed, hne]

include hk

theorem isMatch_named_iff {handle name : Text} (hq : (named handle name).IsWellFormed) :
    isMatch (named handle name).text resource = true ↔
      k ≠ [] ∧ (named handle name).IsMetBy (parse k) := by
  have hbare := hq.isBare
  cases hq with
  | named hhandle hname hstar =>
    have hcolon : ':' ∉ (named handle name).text := by
      simp [text, hhandle.colon_notMem, hname.colon_notMem]
    have hparse : parse (named handle name).text = ⟨handle, name, none⟩ := by
      rw [parse_of_body_of_notMem (by rwa [hbare.body_eq]), hbare.body_eq]
      exact ofPath_append name none hhandle.slash_notMem
    have hstarred : ¬ ['*'] <:+ (named handle name).text := by
      rw [text, List.append_cons, star_suffix_append (absurd · hname.ne_nil)]
      exact hstar
    have hversion := mt hbare.asksVersion_iff.mp hcolon
    have hnamed : Kind.IsNamed ⟨handle, name, none⟩ := ⟨hhandle.ne_nil, hname.ne_nil⟩
    rw [isMatch_iff_of_not_asksVersion hbare.isAscii hstarred hk hkind hversion, hparse]
    simp only [hnamed, HasNameOf, IsMetBy, true_and, not_true_eq_false, false_and, or_false]

theorem isMatch_versioned_iff {handle name version : Text}
    (hq : (versioned handle name version).IsWellFormed) :
    isMatch (versioned handle name version).text resource = true ↔
      k ≠ [] ∧ (versioned handle name version).IsMetBy (parse k) := by
  have hbare := hq.isBare
  cases hq with
  | versioned hhandle hname hstar hversion hne hstar' =>
    have htext : (versioned handle name version).text =
        (handle ++ '/' :: name) ++ ':' :: version := by simp [text]
    have hpath : ':' ∉ handle ++ '/' :: name := by
      simp [hhandle.colon_notMem, hname.colon_notMem]
    have hparse : parse (versioned handle name version).text = ⟨handle, name, some version⟩ := by
      rw [parse_of_body (hbare.body_eq.trans htext) hpath, if_neg (by simpa using hne)]
      exact ofPath_append name (some version) hhandle.slash_notMem
    have hstarred : ¬ ['*'] <:+ (versioned handle name version).text := by
      rw [htext, List.append_cons, star_suffix_append (absurd · hne)]
      exact hstar'
    have hasks : AsksVersion (versioned handle name version).text := by
      rw [hbare.asksVersion_iff, htext]
      simp
    rw [isMatch_iff_of_asksVersion hbare.isAscii hstarred hk hkind hasks, hparse]
    simp only [lowered, IsMetBy, Kind.mk.injEq, Option.map_some]

theorem isMatch_iff_isMetBy (hq : q.IsWellFormed) :
    isMatch q.text resource = true ↔ q.IsMetBy (parse k) := by
  have hmatch : isMatch q.text resource = true ↔ k ≠ [] ∧ q.IsMetBy (parse k) := by
    cases q with
    | starting handle start => exact isMatch_starting_iff hkind hq.isBare
    | named handle name => exact isMatch_named_iff hk hkind hq
    | versioned handle name version => exact isMatch_versioned_iff hk hkind hq
  rw [hmatch]
  exact and_iff_right_of_imp hq.ne_nil

end

/-- The resource has a kind that the request asks for. -/
def Selects (q : Query) (resource : Value) : Prop :=
  ∃ k ∈ (resource.read "kind").asText?, q.IsMetBy (parse k)

instance (q : Query) (resource : Value) : Decidable (q.Selects resource) :=
  inferInstanceAs (Decidable (∃ k ∈ _, q.IsMetBy (parse k)))

end Query

/-- If the resource has a kind, it is an ASCII text. -/
def HasAsciiKind (resource : Value) : Prop :=
  ∀ k ∈ (resource.read "kind").asText?, IsAscii k

instance (resource : Value) : Decidable (HasAsciiKind resource) :=
  inferInstanceAs (Decidable (∀ k ∈ _, IsAscii k))

theorem isMatch_of_no_kind {resource : Value} (r : Text)
    (h : (resource.read "kind").asText? = none) : isMatch r resource = false := by
  have hnone : ofResource? resource = none := by
    rw [ofResource?, h]
    exact ite_self none
  rw [isMatch, hnone]

namespace Query

variable {q : Query} {r : Text}

theorem isMatch_iff_selects {resource : Value} (hq : q.IsWellFormed) (hr : Spells r q.text)
    (hk : HasAsciiKind resource) : isMatch r resource = true ↔ q.Selects resource := by
  cases hkind : (resource.read "kind").asText? with
  | none =>
    rw [isMatch_of_no_kind r hkind, Selects, hkind]
    simp
  | some k =>
    have hmatch : isMatch r resource = isMatch q.text resource := by
      rw [isMatch, isMatch, hq.isBare.parse_of_spells hr]
    rw [hmatch, isMatch_iff_isMetBy (hk k hkind) hkind hq, Selects, hkind]
    simp

/-- However a request is spelled, a resource answers it if it has a kind that is asked for; these
resources are kept in their order. -/
theorem selects_exactly (hq : q.IsWellFormed) (hr : Spells r q.text) :
    (∀ resource, HasAsciiKind resource → (isMatch r resource = true ↔ q.Selects resource)) ∧
      (∀ resources look, filter r resources look = resources.filter fun x => isMatch r (look x)) ∧
      ∀ resources, has r resources = true ↔ ∃ x ∈ resources, isMatch r x = true := by
  refine ⟨?_, fun resources look => rfl, fun resources => List.any_eq_true⟩
  intro resource hk
  exact isMatch_iff_selects hq hr hk

theorem selects_exactly_in_capitals :
    (versioned "kapeta" "mysql" "1.0").IsWellFormed ∧
      Spells "KAPETA://Kapeta/MySQL:1.0" (versioned "kapeta" "mysql" "1.0").text ∧
      (isMatch "KAPETA://Kapeta/MySQL:1.0" (resourceOf " kapeta/MYSQL:1.0 ") = true ↔
        (versioned "kapeta" "mysql" "1.0").Selects (resourceOf " kapeta/MYSQL:1.0 ")) ∧
      (versioned "kapeta" "mysql" "1.0").Selects (resourceOf " kapeta/MYSQL:1.0 ") ∧
      ¬ (versioned "kapeta" "mysql" "1.0").Selects (resourceOf "kapeta/mysql:1.0/beta") := by
  have hq : (versioned "kapeta" "mysql" "1.0").IsWellFormed :=
    .versioned ⟨⟨by decide, by decide, by decide⟩, by decide, by decide⟩
      ⟨⟨by decide, by decide, by decide⟩, by decide, by decide⟩ (by decide)
      ⟨by decide, by decide, by decide⟩ (by decide) (by decide)
  have hr : Spells "KAPETA://Kapeta/MySQL:1.0" (versioned "kapeta" "mysql" "1.0").text :=
    Or.inr (by decide +kernel)
  obtain ⟨hmatch, -⟩ := selects_exactly hq hr
  exact ⟨hq, hr, hmatch (resourceOf " kapeta/MYSQL:1.0 ") (by decide +kernel), by decide +kernel,
    by decide +kernel⟩

end Query

end Stencil.Kind
