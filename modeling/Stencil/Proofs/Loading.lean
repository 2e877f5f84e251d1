import Stencil.Config
import Stencil.Document.Loading
import Stencil.Proofs.Disk.Route
import Stencil.Proofs.Text.Encoding

namespace Stencil

variable {d : Disk} {p : Path} {bytes : Text.Bytes} {mode : Nat}

theorem Disk.exists_of_find {n : Node} (h : d.find p = .ok n) : d.exists p = .ok true :=
  exists_eq_true_iff.mpr ⟨n, h⟩

theorem Disk.read_of_find (h : d.find p = .ok (.file bytes mode)) : d.read p = .ok bytes := by
  rw [Disk.read, h]
  rfl

/-- Ends in a result or in a fault of one class. -/
def IsAnswered {α κ : Type} (fault : κ → Fault) (r : Except Fault α) : Prop :=
  (∃ a, r = .ok a) ∨ ∃ cause, r = .error (fault cause)

theorem not_isAnswered_error {α κ : Type} {fault : κ → Fault} {f : Fault}
    (h : ∀ cause, fault cause ≠ f) : ¬ IsAnswered fault (.error f : Except Fault α) := by
  rintro (⟨a, ha⟩ | ⟨cause, hcause⟩)
  · cases ha
  · exact h cause (Except.error.inj hcause).symm

/-- The reader refuses every text that it gives no value for. -/
def Reader.OnlyRefuses (r : Reader) : Prop :=
  ∀ t cause, r t ≠ .error (.broken cause)

variable {readers : Readers} {reader : Reader}

namespace Document

variable {t name : Text}

theorem ofFileBy_of_decode? (hfile : d.find p = .ok (.file bytes mode))
    (h : Text.decode? bytes = some t) : ofFileBy readers d p =
      (parseBy readers (Text.normalizeNewlines t) p.name).map fun v => ⟨p.toText, v⟩ := by
  rw [ofFileBy, Disk.exists_of_find hfile, Disk.read_of_find hfile]
  simp only [bind, Except.bind, h]
  cases parseBy readers (Text.normalizeNewlines t) p.name <;> rfl

theorem ofFileBy_of_undecodable (hfile : d.find p = .ok (.file bytes mode))
    (h : Text.decode? bytes = none) : ofFileBy readers d p = .error (.general .undecodable) := by
  rw [ofFileBy, Disk.exists_of_find hfile, Disk.read_of_find hfile]
  simp only [bind, Except.bind, h]
  rfl

/-- Of any text comes a value or the fault that names the document. -/
theorem parseBy_cases (hyaml : readers.yaml.OnlyRefuses) (hjson : readers.json.OnlyRefuses)
    (t name : Text) : (∃ v, parseBy readers t name = .ok v) ∨
      parseBy readers t name = .error (.document (.invalid name)) := by
  have hreader : (if isYaml name then readers.yaml else readers.json).OnlyRefuses := by
    split
    next => exact hyaml
    next => exact hjson
  rw [parseBy]
  cases hread : (if isYaml name then readers.yaml else readers.json) t with
  | ok v => exact .inl ⟨v, rfl⟩
  | error why =>
    cases why with
    | refused => exact .inr rfl
    | broken cause => exact absurd hread (hreader t cause)

theorem isAnswered_ofFileBy_iff (hyaml : readers.yaml.OnlyRefuses)
    (hjson : readers.json.OnlyRefuses) (hfile : d.find p = .ok (.file bytes mode)) :
    IsAnswered .document (ofFileBy readers d p) ↔ Text.IsUtf8 bytes := by
  cases hdecode : Text.decode? bytes with
  | none =>
    rw [ofFileBy_of_undecodable hfile hdecode]
    exact iff_of_false (not_isAnswered_error nofun) (Text.decode?_eq_none_iff.mp hdecode)
  | some t =>
    rw [ofFileBy_of_decode? hfile hdecode]
    refine iff_of_true ?_ ⟨t, Text.decode?_eq_some_iff.mp hdecode⟩
    rcases parseBy_cases hyaml hjson (Text.normalizeNewlines t) p.name with ⟨v, hv⟩ | hv
    · exact .inl ⟨⟨p.toText, v⟩, by rw [hv]; rfl⟩
    · exact .inr ⟨.invalid p.name, by rw [hv]; rfl⟩

end Document

namespace Config

variable {t : Text}

/-- The entries that were read from a file, unless what was read is no mapping. -/
def entriesOf (p : Path) : Except Misreading Value → Except Fault Entries
  | .ok (.dict es) => .ok es
  | .ok _ => .error (.config (.notObject p.toText))
  | .error .refused => .error (.config (.invalidJson p.toText))
  | .error (.broken cause) => .error (.general cause)

theorem readFileBy_of_suffix_ne (hfile : d.find p = .ok (.file bytes mode))
    (h : Text.lower p.suffix ≠ extension) :
    readFileBy reader d p = .error (.config (.notJson p.toText)) := by
  rw [readFileBy, Disk.exists_of_find hfile]
  simp only [bind, Except.bind, if_pos h]
  rfl

theorem readFileBy_of_undecodable (hfile : d.find p = .ok (.file bytes mode))
    (hsuffix : Text.lower p.suffix = extension) (h : Text.decode? bytes = none) :
    readFileBy reader d p = .error (.general .undecodable) := by
  rw [readFileBy, Disk.exists_of_find hfile, Disk.read_of_find hfile]
  simp only [bind, Except.bind, if_neg (not_not.mpr hsuffix), h]
  rfl

theorem readFileBy_of_decode? (hfile : d.find p = .ok (.file bytes mode))
    (hsuffix : Text.lower p.suffix = extension) (h : Text.decode? bytes = some t) :
    readFileBy reader d p = entriesOf p (reader (Text.normalizeNewlines t)) := by
  rw [readFileBy, Disk.exists_of_find hfile, Disk.read_of_find hfile]
  simp only [bind, Except.bind, if_neg (not_not.mpr hsuffix), h]
  rcases reader (Text.normalizeNewlines t) with (_ | _) | v
  · rfl
  · rfl
  · cases v <;> rfl

theorem isAnswered_entriesOf (hreader : reader.OnlyRefuses) (p : Path) (t : Text) :
    IsAnswered .config (entriesOf p (reader t)) := by
  cases hread : reader t with
  | ok v =>
    cases v with
    | dict es => exact .inl ⟨es, rfl⟩
    | _ => exact .inr ⟨_, rfl⟩
  | error why =>
    cases why with
    | refused => exact .inr ⟨_, rfl⟩
    | broken cause => exact absurd hread (hreader t cause)

theorem isAnswered_readFileBy_iff (hreader : reader.OnlyRefuses)
    (hfile : d.find p = .ok (.file bytes mode)) : IsAnswered .config (readFileBy reader d p) ↔
      (Text.lower p.suffix = extension → Text.IsUtf8 bytes) := by
  by_cases hsuffix : Text.lower p.suffix = extension
  · cases hdecode : Text.decode? bytes with
    | none =>
      have hnot : ¬ Text.IsUtf8 bytes := Text.decode?_eq_none_iff.mp hdecode
      rw [readFileBy_of_undecodable hfile hsuffix hdecode]
      exact iff_of_false (not_isAnswered_error nofun) fun h => hnot (h hsuffix)
    | some t =>
      rw [readFileBy_of_decode? hfile hsuffix hdecode]
      have hbytes := Text.decode?_eq_some_iff.mp hdecode
      exact iff_of_true (isAnswered_entriesOf hreader p _) fun _ => ⟨t, hbytes⟩
  · rw [readFileBy_of_suffix_ne hfile hsuffix]
    exact iff_of_true (.inr ⟨_, rfl⟩) fun h => absurd h hsuffix

end Config

/-- With any readers that only refuse what they do not understand, loading a file ends in a document,
or a mapping, or in a fault of its own class just if the bytes are those of a text; a configuration
whose name has another extension is refused without being read. All other bytes are told by a general
fault, before a reader sees anything. -/
theorem loading_answered_iff (hyaml : readers.yaml.OnlyRefuses) (hjson : readers.json.OnlyRefuses)
    (hfile : d.find p = .ok (.file bytes mode)) :
    (IsAnswered .document (Document.ofFileBy readers d p) ↔ Text.IsUtf8 bytes) ∧
    (IsAnswered .config (Config.readFileBy readers.json d p) ↔
      (Text.lower p.suffix = Config.extension → Text.IsUtf8 bytes)) ∧
    (¬ Text.IsUtf8 bytes →
      Document.ofFileBy readers d p = .error (.general .undecodable) ∧
      (Text.lower p.suffix = Config.extension →
        Config.readFileBy readers.json d p = .error (.general .undecodable))) := by
  refine ⟨Document.isAnswered_ofFileBy_iff hyaml hjson hfile,
    Config.isAnswered_readFileBy_iff hjson hfile, ?_⟩
  intro hbytes
  have hdecode := Text.decode?_eq_none_iff.mpr hbytes
  exact ⟨Document.ofFileBy_of_undecodable hfile hdecode,
    fun hsuffix => Config.readFileBy_of_undecodable hfile hsuffix hdecode⟩

/-- The reader that refuses what another one breaks down on. -/
def Reader.refusing (r : Reader) : Reader := fun t =>
  match r t with
  | .error (.broken _) => .error .refused
  | result => result

theorem Reader.onlyRefuses_refusing (r : Reader) : r.refusing.OnlyRefuses := by
  intro t cause h
  rw [refusing] at h
  split at h
  next => cases h
  next hne => exact hne cause h

theorem Reader.onlyRefuses_json : Reader.json.OnlyRefuses := by
  intro t cause h
  rw [json] at h
  split at h <;> cases h

def settingsReaders : Readers where
  yaml := Reader.yaml.refusing

/-- A text with a letter of two bytes and a line end of two characters. -/
def settingsText : Text :=
  "\x7b\"é\": 1\x7d\r\n"

/-- Files with that text under the names of both formats, and one with a byte that begins no
character. -/
def settingsDisk : Disk where
  nodes := [(["settings.json"], .file (Text.encode settingsText) 0o644),
    (["settings.yml"], .file (Text.encode settingsText) 0o644),
    (["damaged.json"], .file [0xFF] 0o644)]

theorem loading_answered_settings :
    settingsReaders.yaml.OnlyRefuses ∧ settingsReaders.json.OnlyRefuses ∧
      settingsDisk.find (Path.parse "settings.json") =
        .ok (.file (Text.encode settingsText) 0o644) ∧
      settingsDisk.find (Path.parse "settings.yml") =
        .ok (.file (Text.encode settingsText) 0o644) ∧
      IsAnswered .document
        (Document.ofFileBy settingsReaders settingsDisk (Path.parse "settings.json")) ∧
      IsAnswered .document
        (Document.ofFileBy settingsReaders settingsDisk (Path.parse "settings.yml")) ∧
      IsAnswered .config
        (Config.readFileBy settingsReaders.json settingsDisk (Path.parse "settings.json")) := by
  have hyaml : settingsReaders.yaml.OnlyRefuses := Reader.yaml.onlyRefuses_refusing
  have hjson : settingsReaders.json.OnlyRefuses := Reader.onlyRefuses_json
  have hfile : settingsDisk.find (Path.parse "settings.json") =
      .ok (.file (Text.encode settingsText) 0o644) := by rfl
  have hother : settingsDisk.find (Path.parse "settings.yml") =
      .ok (.file (Text.encode settingsText) 0o644) := by rfl
  obtain ⟨hdocument, hconfig, -⟩ := loading_answered_iff hyaml hjson hfile
  obtain ⟨hyamlDocument, -, -⟩ := loading_answered_iff hyaml hjson hother
  exact ⟨hyaml, hjson, hfile, hother, hdocument.mpr ⟨settingsText, rfl⟩,
    hyamlDocument.mpr ⟨settingsText, rfl⟩, hconfig.mpr fun _ => ⟨settingsText, rfl⟩⟩

/-- With any readers, bytes that are no text are told by no fault of documents and none of
configurations. -/
theorem loading_damaged_unanswered :
    settingsDisk.find (Path.parse "damaged.json") = .ok (.file [0xFF] 0o644) ∧
      ∀ readers : Readers,
        Document.ofFileBy readers settingsDisk (Path.parse "damaged.json") =
          .error (.general .undecodable) ∧
        Config.readFileBy readers.json settingsDisk (Path.parse "damaged.json") =
          .error (.general .undecodable) ∧
        ¬ IsAnswered .document
          (Document.ofFileBy readers settingsDisk (Path.parse "damaged.json")) ∧
        ¬ IsAnswered .config
          (Config.readFileBy readers.json settingsDisk (Path.parse "damaged.json")) := by
  have hfile : settingsDisk.find (Path.parse "damaged.json") = .ok (.file [0xFF] 0o644) := by rfl
  have hdecode : Text.decode? [0xFF] = none := by decide
  have hsuffix : Text.lower (Path.parse "damaged.json").suffix = Config.extension := by
    decide +kernel
  refine ⟨hfile, fun readers => ?_⟩
  have hdocument : Document.ofFileBy readers settingsDisk (Path.parse "damaged.json") =
      .error (.general .undecodable) := Document.ofFileBy_of_undecodable hfile hdecode
  have hconfig : Config.readFileBy readers.json settingsDisk (Path.parse "damaged.json") =
      .error (.general .undecodable) := Config.readFileBy_of_undecodable hfile hsuffix hdecode
  refine ⟨hdocument, hconfig, ?_, ?_⟩
  · rw [hdocument]
    exact not_isAnswered_error nofun
  · rw [hconfig]
    exact not_isAnswered_error nofun

end Stencil
