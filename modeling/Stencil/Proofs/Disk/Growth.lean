import Stencil.Proofs.Disk.Trail

namespace Stencil.Disk

/-- Some file stands at a location. -/
def HoldsFile (d : Disk) (m : Location) : Prop :=
  ∃ bytes mode, d.node? m = some (.file bytes mode)

/-- Every directory of the first disk is one of the second, and every file is a file. -/
structure Grows (d d' : Disk) : Prop where
  current : d'.current = d.current
  directory : ∀ m, d.node? m = some .directory → d'.node? m = some .directory
  file : ∀ m, d.HoldsFile m → d'.HoldsFile m

/-- The second disk is the first one with more directories. -/
structure AddsDirectories (d d' : Disk) : Prop where
  current : d'.current = d.current
  node? : ∀ m, d'.node? m = d.node? m ∨ d.node? m = none ∧ d'.node? m = some .directory

/-- The second disk is the first one with directories made for a path, which leads into one now. -/
structure Opened (d : Disk) (p : Path) (d' : Disk) : Prop where
  adds : AddsDirectories d d'
  find : d'.find p = .ok .directory

/-- The second disk is the first one with a file written where a path leads, in a directory, and with
the directories that had to be made for it. -/
structure Landed (d : Disk) (p : Path) (m : Location) (bytes : Text.Bytes) (mode : Nat) (d' : Disk) :
    Prop where
  grows : d.Grows d'
  parent : d'.find p.parent = .ok .directory
  locate : d'.locate p = .ok m
  node? : d'.node? m = some (.file bytes mode)
  elsewhere : ∀ l, l ≠ m → d'.node? l = d.node? l ∨ d.node? l = none ∧ d'.node? l = some .directory

variable {d d' d₁ d₂ : Disk} {l m : Location} {p : Path} {bytes : Text.Bytes} {mode : Nat}

namespace Grows

theorem refl (d : Disk) : d.Grows d :=
  ⟨rfl, fun _ h => h, fun _ h => h⟩

theorem trans (h₁ : d.Grows d₁) (h₂ : d₁.Grows d₂) : d.Grows d₂ where
  current := h₂.current.trans h₁.current
  directory m hm := h₂.directory m (h₁.directory m hm)
  file m hm := h₂.file m (h₁.file m hm)

theorem locate (h : d.Grows d') (hp : d.locate p = .ok m) : d'.locate p = .ok m :=
  locate_mono h.current h.directory hp

theorem find_directory (h : d.Grows d') (hp : d.find p = .ok .directory) :
    d'.find p = .ok .directory := by
  obtain ⟨m, hlocate, hm⟩ := find_eq_ok_iff.mp hp
  exact find_eq_ok_iff.mpr ⟨m, h.locate hlocate, h.directory m hm⟩

theorem exists_find (h : d.Grows d') {n : Node} (hp : d.find p = .ok n) :
    ∃ n', d'.find p = .ok n' := by
  obtain ⟨m, hlocate, hm⟩ := find_eq_ok_iff.mp hp
  cases n with
  | directory => exact ⟨_, find_eq_ok_iff.mpr ⟨m, h.locate hlocate, h.directory m hm⟩⟩
  | file bytes mode =>
    obtain ⟨bytes', mode', hm'⟩ := h.file m ⟨bytes, mode, hm⟩
    exact ⟨_, find_eq_ok_iff.mpr ⟨m, h.locate hlocate, hm'⟩⟩

/-- A file is put where no directory stands. -/
theorem put_file (hm : d.node? m ≠ some .directory) (bytes : Text.Bytes) (mode : Nat) :
    d.Grows (d.put m (.file bytes mode)) where
  current := current_put d m _
  directory _ hk := directory_put hm hk _
  file k hk := by
    unfold HoldsFile
    rw [node?_put d (ne_nil_of_not_directory hm)]
    split
    next => exact ⟨bytes, mode, rfl⟩
    next => exact hk

end Grows

namespace AddsDirectories

theorem refl (d : Disk) : AddsDirectories d d :=
  ⟨rfl, fun _ => Or.inl rfl⟩

theorem trans (h₁ : AddsDirectories d d₁) (h₂ : AddsDirectories d₁ d₂) : AddsDirectories d d₂ where
  current := h₂.current.trans h₁.current
  node? m := by
    rcases h₂.node? m with hsame | ⟨hnone, hdir⟩
    · rw [hsame]
      exact h₁.node? m
    · rcases h₁.node? m with hsame | ⟨-, hdir₁⟩
      · exact Or.inr ⟨hsame ▸ hnone, hdir⟩
      · rw [hdir₁] at hnone
        exact absurd hnone (by simp)

theorem node?_eq (h : AddsDirectories d d') {n : Node} (hm : d.node? m = some n) :
    d'.node? m = some n := by
  rcases h.node? m with hsame | ⟨hnone, -⟩
  · rw [hsame, hm]
  · rw [hm] at hnone
    exact absurd hnone (by simp)

theorem grows (h : AddsDirectories d d') : d.Grows d' :=
  ⟨h.current, fun _ hm => h.node?_eq hm, fun _ ⟨bytes, mode, hm⟩ => ⟨bytes, mode, h.node?_eq hm⟩⟩

theorem put (hm : d.node? m = none) : AddsDirectories d (d.put m .directory) where
  current := current_put d m _
  node? k := by
    rw [node?_put d (ne_nil_of_none hm)]
    split
    next hk => exact Or.inr ⟨hk ▸ hm, rfl⟩
    next => exact Or.inl rfl

end AddsDirectories

theorem opened_of_makeDirectory (h : d.makeDirectory p = .ok d') : Opened d p d' := by
  obtain ⟨m, hlocate, hm, rfl⟩ := makeDirectory_eq_ok h
  have hadds : AddsDirectories d (d.put m .directory) := .put hm
  have hnode := node?_put_self d (ne_nil_of_none hm) .directory
  exact ⟨hadds, find_eq_ok_iff.mpr ⟨m, hadds.grows.locate hlocate, hnode⟩⟩

theorem opened_of_ensureDirectory (h : d.ensureDirectory p = .ok d') : Opened d p d' := by
  rcases ensureDirectory_eq_ok h with hmake | ⟨hfind, rfl⟩
  · exact opened_of_makeDirectory hmake
  · exact ⟨.refl d', hfind⟩

theorem opened_of_ensureFrom {root : Text} {parts : List Text}
    (h : d.ensureFrom root parts = .ok d') : Opened d ⟨root, parts.reverse⟩ d' := by
  induction parts generalizing d' with
  | nil => exact opened_of_ensureDirectory h
  | cons part parts ih =>
    rcases ensureFrom_cons_eq_ok h with hone | ⟨d₁, habove, hone⟩
    · exact opened_of_ensureDirectory hone
    · have hlast := opened_of_ensureDirectory hone
      exact ⟨(ih habove).adds.trans hlast.adds, hlast.find⟩

theorem opened_of_ensureDirectories (h : d.ensureDirectories p = .ok d') : Opened d p d' := by
  simpa using opened_of_ensureFrom h

/-- Where a directory stands already, none is made. -/
theorem ensureDirectories_of_find (h : d.find p = .ok .directory) : d.ensureDirectories p = .ok d :=
  ensureFrom_of_find (by simpa using h)

/-- Directories are made, a file is written and its permissions are set. -/
theorem Opened.landed (hopen : Opened d p.parent d₁) (hwrite : d₁.write p bytes = .ok d₂)
    (hmode : d₂.setMode p mode = .ok d') : ∃ m, Landed d p m bytes mode d' := by
  obtain ⟨m, old, hlocate, hm, rfl⟩ := write_eq_ok hwrite
  have hne := ne_nil_of_not_directory hm
  have hgrows₂ : d₁.Grows (d₁.put m (.file bytes old)) := .put_file hm bytes old
  have hnode₂ := node?_put_self d₁ hne (.file bytes old)
  have hlocate₂ := hgrows₂.locate hlocate
  rw [setMode_of_file hlocate₂ hnode₂] at hmode
  cases Except.ok.inj hmode
  have hm₂ : (d₁.put m (.file bytes old)).node? m ≠ some .directory := by
    rw [hnode₂]
    simp
  have hgrows₃ := Grows.put_file hm₂ bytes mode
  refine ⟨m, hopen.adds.grows.trans (hgrows₂.trans hgrows₃),
    hgrows₃.find_directory (hgrows₂.find_directory hopen.find), hgrows₃.locate hlocate₂,
    node?_put_self _ hne _, fun l hl => ?_⟩
  rw [node?_put _ hne, if_neg hl, node?_put _ hne, if_neg hl]
  exact hopen.adds.node? l

/-- A file that is written leaves other files as they are. -/
theorem Landed.node?_file (h : Landed d p m bytes mode d') (hl : l ≠ m) {old : Text.Bytes}
    {oldMode : Nat} (hfile : d.node? l = some (.file old oldMode)) :
    d'.node? l = some (.file old oldMode) := by
  rcases h.elsewhere l hl with hsame | ⟨hnone, -⟩
  · rw [hsame, hfile]
  · rw [hfile] at hnone
    exact absurd hnone (by simp)

end Stencil.Disk
