import Stencil.Helper.Kinds
import Stencil.Proofs.Kind.Query

namespace Stencil.Kind

open Text (IsAscii IsVisible isAscii_append isAscii_cons isMark_colon isMark_slash isVisible_append
  isVisible_cons)

theorem isPart_iff {t : Text} : IsPart t ↔
    (IsAscii t ∧ IsVisible t ∧ '/' ∉ t) ∧ t ≠ [] ∧ ':' ∉ t :=
  ⟨fun h => ⟨⟨h.isAscii, h.isVisible, h.slash_notMem⟩, h.ne_nil, h.colon_notMem⟩,
    fun ⟨⟨hascii, hvisible, hslash⟩, hne, hcolon⟩ => ⟨⟨hascii, hvisible, hslash⟩, hne, hcolon⟩⟩

instance (t : Text) : Decidable (IsPart t) :=
  decidable_of_iff _ isPart_iff.symm

/-- A handle and a name, written with any version or without one. -/
structure Mention where
  handle : Text
  name : Text
  version : Option Text := none
  hasProtocol : Bool := false

namespace Mention

def start (m : Mention) : Text :=
  if m.hasProtocol then protocol else []

def text (m : Mention) : Text :=
  m.start ++ (m.handle ++ '/' :: (m.name ++ versionTail m.version))

structure IsWellFormed (m : Mention) : Prop where
  handle : IsPart m.handle
  name : IsPart m.name
  star : ¬ ['*'] <:+ m.name

variable {m : Mention}

theorem isWellFormed_iff : m.IsWellFormed ↔
    IsPart m.handle ∧ IsPart m.name ∧ ¬ ['*'] <:+ m.name :=
  ⟨fun h => ⟨h.handle, h.name, h.star⟩, fun ⟨hhandle, hname, hstar⟩ => ⟨hhandle, hname, hstar⟩⟩

instance (m : Mention) : Decidable m.IsWellFormed :=
  decidable_of_iff _ isWellFormed_iff.symm

/-- The handle and the name in small letters. -/
def path (m : Mention) : Text × Text :=
  (Text.lower m.handle, Text.lower m.name)

theorem isVisible_start (m : Mention) : IsVisible m.start := by
  rw [start]
  split <;> decide

theorem IsWellFormed.isVisible (h : m.IsWellFormed) :
    IsVisible (m.start ++ (m.handle ++ '/' :: m.name)) :=
  isVisible_append.mpr ⟨m.isVisible_start, (h.handle.isBare_append h.name.toIsWord).isVisible⟩

theorem IsWellFormed.strip_text (h : m.IsWellFormed) :
    Text.strip m.text = { m with version := m.version.map Text.stripEnd }.text := by
  cases hv : m.version with
  | none =>
    have htext : m.text = m.start ++ (m.handle ++ '/' :: m.name) := by
      simp [text, hv, versionTail]
    rw [htext, Text.strip_of_forall h.isVisible]
    simp [text, start, versionTail]
  | some v =>
    have htext : m.text = m.start ++ (m.handle ++ '/' :: m.name) ++ ':' :: v := by
      simp [text, hv, versionTail]
    rw [htext, Text.strip_append_cons h.isVisible (by decide)]
    simp [text, start, versionTail]

/-- Without the protocol in front the text does not begin with it. -/
theorem not_protocol_prefix_lower {handle : Text} (h : IsPart handle) (rest : Text) :
    ¬ protocol <+: Text.lower (handle ++ '/' :: rest) := by
  rintro ⟨behind, heq⟩
  have hslash : IsAscii ['/'] := by decide
  obtain ⟨inWord, hhandle⟩ := h.isAscii.exists_lowerFrom_append false ('/' :: rest)
  obtain ⟨inWord', hrest⟩ := hslash.exists_lowerFrom_append inWord rest
  have hlower : Text.lower (handle ++ '/' :: rest) =
      Text.lower handle ++ '/' :: Text.lowerFrom inWord' rest := by
    rw [Text.lower, hhandle, h.isAscii.lower_eq_map]
    exact congrArg _ hrest
  have hprotocol : protocol ++ behind = "kapeta:".toList ++ '/' :: ('/' :: behind) := rfl
  have hfirst : '/' ∉ Text.lower handle := mt (h.isAscii.mem_lower isMark_slash).mp h.slash_notMem
  have hcolon : ':' ∉ Text.lower handle := mt (h.isAscii.mem_lower isMark_colon).mp h.colon_notMem
  rw [hlower, hprotocol] at heq
  obtain ⟨hkapeta, -⟩ := (Text.append_cons_inj (by decide) hfirst).mp heq
  rw [← hkapeta] at hcolon
  exact hcolon (by decide)

theorem drop_start (m : Mention) (h : IsPart m.handle) :
    (if protocol <+: Text.lower m.text then m.text.drop protocol.length else m.text) =
      m.handle ++ '/' :: (m.name ++ versionTail m.version) := by
  cases hstart : m.hasProtocol with
  | true =>
    have htext : m.text = protocol ++ (m.handle ++ '/' :: (m.name ++ versionTail m.version)) := by
      simp [text, start, hstart]
    have hprotocol : IsAscii protocol := by decide
    obtain ⟨inWord, hlower⟩ := hprotocol.exists_lowerFrom_append false
      (m.handle ++ '/' :: (m.name ++ versionTail m.version))
    have hprefix : protocol <+: Text.lower m.text := by
      rw [htext, Text.lower, hlower]
      exact List.prefix_append _ _
    rw [if_pos hprefix, htext, List.drop_left]
  | false =>
    have htext : m.text = m.handle ++ '/' :: (m.name ++ versionTail m.version) := by
      simp [text, start, hstart]
    rw [htext, if_neg (not_protocol_prefix_lower h _)]

theorem IsWellFormed.body_text (h : m.IsWellFormed) :
    body m.text = m.handle ++ '/' :: (m.name ++ versionTail (m.version.map Text.stripEnd)) := by
  rw [body_eq, h.strip_text]
  exact drop_start { m with version := m.version.map Text.stripEnd } h.handle

/-- The handle and the name are read from the text, whatever the version is. -/
theorem IsWellFormed.exists_parse_text (h : m.IsWellFormed) :
    ∃ version, parse m.text = ⟨m.handle, m.name, version⟩ := by
  have hcolon : ':' ∉ m.handle ++ '/' :: m.name := by
    simp [h.handle.colon_notMem, h.name.colon_notMem]
  have hbody := h.body_text
  cases hv : m.version with
  | none =>
    have hbody' : body m.text = m.handle ++ '/' :: m.name := by
      simpa [hv, versionTail] using hbody
    refine ⟨none, ?_⟩
    rw [parse_of_body_of_notMem (by rwa [hbody']), hbody']
    exact ofPath_append m.name none h.handle.slash_notMem
  | some v =>
    have hbody' : body m.text = (m.handle ++ '/' :: m.name) ++ ':' :: Text.stripEnd v := by
      simpa [hv, versionTail] using hbody
    refine ⟨if (Text.stripEnd v).isEmpty then none else some (Text.stripEnd v), ?_⟩
    rw [parse_of_body hbody' hcolon]
    exact ofPath_append m.name _ h.handle.slash_notMem

theorem IsWellFormed.fullName_parse_text (h : m.IsWellFormed) :
    (parse m.text).fullName = Text.lower (Query.named m.handle m.name).text := by
  obtain ⟨version, hparse⟩ := h.exists_parse_text
  rw [hparse, fullName_of_isNamed ⟨h.handle.ne_nil, h.name.ne_nil⟩]
  rfl

theorem IsWellFormed.isWellFormed_named (h : m.IsWellFormed) :
    (Query.named m.handle m.name).IsWellFormed :=
  .named h.handle h.name h.star

end Mention

/-- The handle and the name in small letters. -/
def path (k : Kind) : Text × Text :=
  (Text.lower k.handle, Text.lower k.name)

/-- The handles and names of the resources that have a kind, in small letters. -/
def pathsOf (resources : List Value) : List (Text × Text) :=
  resources.filterMap fun resource =>
    (resource.read "kind").asText?.map fun kind => (parse kind).path

theorem has_fullName_iff {m : Mention} (h : m.IsWellFormed) {resources : List Value}
    (hascii : ∀ resource ∈ resources, HasAsciiKind resource) :
    has (parse m.text).fullName resources = true ↔ m.path ∈ pathsOf resources := by
  have hbare := h.isWellFormed_named.isBare
  have hspells : Spells (parse m.text).fullName (Query.named m.handle m.name).text := by
    rw [h.fullName_parse_text]
    exact Or.inl hbare.isAscii.lower_lower
  rw [has, List.any_eq_true, pathsOf, List.mem_filterMap]
  refine exists_congr fun resource => and_congr_right fun hmem => ?_
  rw [Query.isMatch_iff_selects h.isWellFormed_named hspells (hascii resource hmem),
    Option.map_eq_some_iff]
  refine exists_congr fun kind => and_congr_right fun _ => ?_
  rw [path, Mention.path, Prod.mk.injEq]
  exact and_congr eq_comm eq_comm

end Stencil.Kind

namespace Stencil

open Kind

theorem Helper.usesAny_iff {mentions : List Mention} (h : ∀ m ∈ mentions, m.IsWellFormed)
    {resources : List Value} (hascii : ∀ resource ∈ resources, HasAsciiKind resource) :
    usesAny resources (mentions.map Mention.text) = true ↔
      ∃ p ∈ mentions.map Mention.path, p ∈ pathsOf resources := by
  have hnames : requestedNames (mentions.map Mention.text) =
      mentions.map fun m => (Kind.parse m.text).fullName := by
    rw [requestedNames, List.map_map, List.filter_eq_self.mpr]
    · rfl
    · intro name hname
      obtain ⟨m, hm, rfl⟩ := List.mem_map.mp hname
      have hbare := (h m hm).isWellFormed_named.isBare
      rw [Function.comp_apply, (h m hm).fullName_parse_text, hbare.isAscii.isEmpty_lower]
      simp [Query.text]
  rw [usesAny, hnames, List.any_map, List.any_eq_true]
  simp only [List.mem_map, exists_exists_and_eq_and, Function.comp_apply]
  exact exists_congr fun m => and_congr_right fun hm => has_fullName_iff (h m hm) hascii

end Stencil
