import Stencil.Proofs.Disk.Route
import Stencil.Proofs.Disk.Task

namespace Stencil.Disk

/-- The location that a component leads to. -/
def enter (l : Location) (part : Text) : Location :=
  if part = ['.', '.'] then l.dropLast else l ++ [part]

/-- The locations that components lead to, one after the other. -/
def trail (l : Location) : List Text → List Location
  | [] => []
  | part :: parts => enter l part :: trail (enter l part) parts

/-- Read some way down, the components never lead further up than they have led down. -/
def staysBelow : Nat → List Text → Bool
  | _, [] => true
  | depth, part :: parts =>
    if part = ['.', '.'] then depth ≠ 0 && staysBelow (depth - 1) parts
    else staysBelow (depth + 1) parts

/-- A path leads to a directory. -/
def LeadsInto (d : Disk) (p : Path) (l : Location) : Prop :=
  d.locate p = .ok l ∧ d.node? l = some .directory

/-- The second disk differs from the first one only in some places, and has all its directories. -/
structure ChangedOnly (d : Disk) (places : Location → Prop) (d' : Disk) : Prop where
  current : d'.current = d.current
  directory : ∀ m, d.node? m = some .directory → d'.node? m = some .directory
  node? : ∀ m, ¬ places m → d'.node? m = d.node? m

variable {d d' d₁ d₂ : Disk} {l m : Location} {root : Text} {base inner parts : List Text}
  {p : Path} {places more : Location → Prop}

theorem follow_eq_foldl (h : d.follow l parts = .ok m) : m = parts.foldl enter l := by
  induction parts generalizing l with
  | nil => exact (Except.ok.inj h).symm
  | cons part parts ih =>
    have hl := directory_of_follow h
    simp only [follow, hl] at h
    split at h
    next => simp at h
    next =>
      rw [List.foldl_cons, enter]
      split at h
      next hdots => rw [if_pos hdots]; exact ih h
      next hdots => rw [if_neg hdots]; exact ih h

theorem foldl_enter_of_notMem (l : Location) (h : ['.', '.'] ∉ parts) :
    parts.foldl enter l = l ++ parts := by
  induction parts generalizing l with
  | nil => rw [List.foldl_nil, List.append_nil]
  | cons part parts ih =>
    rw [List.mem_cons, not_or] at h
    rw [List.foldl_cons, enter, if_neg (Ne.symm h.1), ih _ h.2, List.append_assoc,
      List.singleton_append]

theorem foldl_enter_mem_trail (l : Location) (hne : parts ≠ []) :
    parts.foldl enter l ∈ trail l parts := by
  induction parts generalizing l with
  | nil => exact absurd rfl hne
  | cons part parts ih =>
    cases parts with
    | nil => exact List.mem_singleton_self _
    | cons next parts => exact List.mem_cons_of_mem _ (ih _ (by simp))

theorem trail_append (l : Location) (ps qs : List Text) :
    trail l (ps ++ qs) = trail l ps ++ trail (ps.foldl enter l) qs := by
  induction ps generalizing l with
  | nil => rfl
  | cons part ps ih => simp [trail, ih]

/-- Components that stay below do not lead out of a location some way above. -/
theorem prefix_of_mem_trail {names : List Text} (h : staysBelow names.length parts = true)
    (hm : m ∈ trail (l ++ names) parts) : l <+: m := by
  induction parts generalizing names with
  | nil => exact absurd hm List.not_mem_nil
  | cons part parts ih =>
    rw [staysBelow] at h
    have hstep : ∃ names', enter (l ++ names) part = l ++ names' ∧
        staysBelow names'.length parts = true := by
      rw [enter]
      split at h
      next hdots =>
        rw [if_pos hdots]
        simp only [ne_eq, Bool.and_eq_true, decide_eq_true_eq] at h
        refine ⟨names.dropLast, ?_, by rw [List.length_dropLast]; exact h.2⟩
        exact List.dropLast_append_of_ne_nil (List.length_pos_iff.mp (Nat.pos_of_ne_zero h.1))
      next hdots =>
        rw [if_neg hdots]
        exact ⟨names ++ [part], by simp, by simpa using h⟩
    obtain ⟨names', henter, hbelow⟩ := hstep
    rw [trail, henter] at hm
    rcases List.mem_cons.mp hm with rfl | hm
    · exact List.prefix_append l names'
    · exact ih hbelow hm

namespace ChangedOnly

theorem refl (d : Disk) (places : Location → Prop) : ChangedOnly d places d :=
  ⟨rfl, fun _ h => h, fun _ _ => rfl⟩

theorem trans (h₁ : ChangedOnly d places d₁) (h₂ : ChangedOnly d₁ places d₂) :
    ChangedOnly d places d₂ where
  current := h₂.current.trans h₁.current
  directory m hm := h₂.directory m (h₁.directory m hm)
  node? m hm := (h₂.node? m hm).trans (h₁.node? m hm)

theorem mono (h : ChangedOnly d places d') (hsub : ∀ m, places m → more m) :
    ChangedOnly d more d' where
  current := h.current
  directory := h.directory
  node? m hm := h.node? m fun hp => hm (hsub m hp)

theorem leadsInto (h : ChangedOnly d places d') (hp : d.LeadsInto p l) : d'.LeadsInto p l :=
  ⟨locate_mono h.current h.directory hp.1, h.directory l hp.2⟩

/-- Something new is put where no directory stands. -/
theorem put (hm : places m) (hd : d.node? m ≠ some .directory) (n : Node) :
    ChangedOnly d places (d.put m n) := by
  refine ⟨current_put d m n, fun k hk => directory_put hd hk n, fun k hk => ?_⟩
  have hkm : k ≠ m := by
    rintro rfl
    exact hk hm
  rw [node?_put d (ne_nil_of_not_directory hd), if_neg hkm]

end ChangedOnly

section

variable (into : d.LeadsInto ⟨root, base⟩ l)
include into

/-- A path into a directory and on from there leads along its trail, unless it stops at the
directory. -/
theorem LeadsInto.locate_append (h : d.locate ⟨root, base ++ inner⟩ = .ok m) :
    m ∈ trail l inner ∨ d.node? m = some .directory := by
  obtain ⟨k, hk, hfollow⟩ := Disk.locate_append h
  cases Except.ok.inj (into.1.symm.trans hk)
  by_cases hinner : inner = []
  · subst hinner
    cases Except.ok.inj hfollow
    exact Or.inr into.2
  · rw [follow_eq_foldl hfollow]
    exact Or.inl (foldl_enter_mem_trail l hinner)

theorem LeadsInto.put (h : d.locate ⟨root, base ++ inner⟩ = .ok m)
    (hd : d.node? m ≠ some .directory) (n : Node) :
    ChangedOnly d (· ∈ trail l inner) (d.put m n) :=
  .put ((into.locate_append h).resolve_right hd) hd n

theorem LeadsInto.makeDirectory (h : d.makeDirectory ⟨root, base ++ inner⟩ = .ok d') :
    ChangedOnly d (· ∈ trail l inner) d' := by
  obtain ⟨m, hlocate, hm, rfl⟩ := makeDirectory_eq_ok h
  exact into.put hlocate (by simp [hm]) .directory

theorem LeadsInto.ensureDirectory (h : d.ensureDirectory ⟨root, base ++ inner⟩ = .ok d') :
    ChangedOnly d (· ∈ trail l inner) d' := by
  rcases ensureDirectory_eq_ok h with hmake | ⟨-, rfl⟩
  · exact into.makeDirectory hmake
  · exact .refl d' _

/-- The directories above a directory are there. -/
theorem LeadsInto.find_prefix {ps : List Text} (hps : ps <+: base) :
    d.find ⟨root, ps⟩ = .ok .directory := by
  obtain ⟨rest, rfl⟩ := hps
  obtain ⟨k, hk, hfollow⟩ := Disk.locate_append into.1
  have hdir : d.node? k = some .directory := by
    cases rest with
    | nil =>
      cases Except.ok.inj hfollow
      exact into.2
    | cons part rest => exact directory_of_follow hfollow
  exact find_eq_ok_iff.mpr ⟨k, hk, hdir⟩

end

theorem makeDirectory_of_find {n : Node} (h : d.find p = .ok n) :
    d.makeDirectory p = .error .exists := by
  obtain ⟨m, hlocate, hm⟩ := find_eq_ok_iff.mp h
  simp [makeDirectory, hlocate, hm, bind, Except.bind, throw, throwThe, MonadExceptOf.throw]

theorem ensureFrom_of_find (h : d.find ⟨root, parts.reverse⟩ = .ok .directory) :
    d.ensureFrom root parts = .ok d := by
  cases parts with
  | nil =>
    rw [List.reverse_nil] at h
    rw [ensureFrom, ensureDirectory, makeDirectory_of_find h]
    simp [h, Except.toOption]
  | cons part parts =>
    rw [ensureFrom, makeDirectory_of_find h, h]
    rfl

/-- Making the directories of a path changes no more than its trail, also where directories above
have to be made first. -/
theorem LeadsInto.ensureFrom (into : d.LeadsInto ⟨root, base⟩ l)
    (h : d.ensureFrom root (base ++ inner).reverse = .ok d') :
    ChangedOnly d (· ∈ trail l inner) d' := by
  induction inner using List.reverseRecOn generalizing d' with
  | nil =>
    have hfind : d.find ⟨root, ((base ++ []).reverse).reverse⟩ = .ok .directory := by
      simpa using into.find_prefix List.prefix_rfl
    cases Except.ok.inj ((ensureFrom_of_find hfind).symm.trans h)
    exact .refl d _
  | append_singleton inner part ih =>
    have hback : (base ++ (inner ++ [part])).reverse = part :: (base ++ inner).reverse := by simp
    have hforth : (part :: (base ++ inner).reverse).reverse = base ++ (inner ++ [part]) := by simp
    rw [hback] at h
    rcases ensureFrom_cons_eq_ok h with hone | ⟨d₁, habove, hone⟩ <;> rw [hforth] at hone
    · exact into.ensureDirectory hone
    · have hchanged : ChangedOnly d (· ∈ trail l (inner ++ [part])) d₁ :=
        (ih habove).mono fun m hm => by
          rw [trail_append]
          exact List.mem_append_left _ hm
      exact hchanged.trans ((hchanged.leadsInto into).ensureDirectory hone)

section

variable (into : d.LeadsInto ⟨root, base⟩ l)
include into

theorem LeadsInto.ensureDirectories_parent
    (h : d.ensureDirectories (⟨root, base ++ inner⟩ : Path).parent = .ok d') :
    ChangedOnly d (· ∈ trail l inner) d' := by
  rw [ensureDirectories, Path.parent] at h
  cases inner using List.reverseRecOn with
  | nil =>
    have hfind : d.find ⟨root, ((base ++ []).dropLast.reverse).reverse⟩ = .ok .directory := by
      simpa using into.find_prefix (List.dropLast_prefix base)
    cases Except.ok.inj ((ensureFrom_of_find hfind).symm.trans h)
    exact .refl d _
  | append_singleton inner part =>
    have hparent : (base ++ (inner ++ [part])).dropLast = base ++ inner := by
      rw [← List.append_assoc, List.dropLast_concat]
    simp only [hparent] at h
    refine (into.ensureFrom h).mono fun m hm => ?_
    rw [trail_append]
    exact List.mem_append_left _ hm

theorem LeadsInto.write {bytes : Text.Bytes}
    (h : d.write ⟨root, base ++ inner⟩ bytes = .ok d') : ChangedOnly d (· ∈ trail l inner) d' := by
  obtain ⟨m, mode, hlocate, hm, rfl⟩ := write_eq_ok h
  exact into.put hlocate hm _

theorem LeadsInto.setMode {mode : Nat}
    (h : d.setMode ⟨root, base ++ inner⟩ mode = .ok d') : ChangedOnly d (· ∈ trail l inner) d' := by
  obtain ⟨m, hlocate, ⟨bytes, old, hm, rfl⟩ | ⟨-, rfl⟩⟩ := setMode_eq_ok h
  · exact into.put hlocate (by simp [hm]) _
  · exact .refl d' _

end

end Stencil.Disk
