import Stencil.Proofs.Disk.Tree

namespace Stencil.Disk

variable {d d' : Disk} {l m : Location} {p : Path}

theorem follow_append (d : Disk) (l : Location) (ps qs : List Text) :
    d.follow l (ps ++ qs) = (d.follow l ps).bind fun m => d.follow m qs := by
  induction ps generalizing l with
  | nil => rfl
  | cons part ps ih =>
    rw [List.cons_append, follow, follow]
    split
    next => rfl
    next => rfl
    next =>
      split
      next => rfl
      next =>
        split
        next => exact ih _
        next => exact ih _

/-- More directories do not lead a path elsewhere. -/
theorem follow_mono (h : ∀ k, d.node? k = some .directory → d'.node? k = some .directory)
    {ps : List Text} (hf : d.follow l ps = .ok m) : d'.follow l ps = .ok m := by
  induction ps generalizing l with
  | nil => exact hf
  | cons part ps ih =>
    rw [follow] at hf ⊢
    cases hl : d.node? l with
    | none => simp [hl] at hf
    | some n =>
      cases n with
      | file bytes mode => simp [hl] at hf
      | directory =>
        simp only [hl] at hf
        simp only [h l hl]
        split at hf
        next => simp at hf
        next hlen =>
          rw [if_neg hlen]
          split at hf
          next hdots => rw [if_pos hdots]; exact ih hf
          next hdots => rw [if_neg hdots]; exact ih hf

/-- A path that leads somewhere leads there as well when there are more directories. -/
theorem locate_mono (hcurrent : d'.current = d.current)
    (h : ∀ k, d.node? k = some .directory → d'.node? k = some .directory) (hp : d.locate p = .ok m) :
    d'.locate p = .ok m := by
  unfold locate at hp ⊢
  split at hp
  next => simp at hp
  next hnull =>
    rw [if_neg hnull, hcurrent]
    exact follow_mono h hp

/-- Names lead down as far as there are directories. -/
theorem IsTree.follow_names (tree : d.IsTree) {names : List Text} (hne : names ≠ [])
    (hnames : ∀ name ∈ names, IsName name) (clear : d.OpenAbove (l ++ names)) :
    d.follow l names =
      if d.isDirectoryAt (l ++ names).dropLast then .ok (l ++ names) else .error .missing := by
  induction names generalizing l with
  | nil => exact absurd rfl hne
  | cons name names ih =>
    have hname := hnames name (by simp)
    have hproper : l ≠ l ++ name :: names := by simp
    have hstep : l ++ name :: names = l ++ [name] ++ names := by simp
    have habove : l <+: (l ++ name :: names).dropLast := by
      rw [List.dropLast_append_of_ne_nil (by simp)]
      exact List.prefix_append _ _
    rw [follow]
    cases hl : d.node? l with
    | none =>
      have hfar : ¬ d.isDirectoryAt (l ++ name :: names).dropLast = true := by
        intro h
        rw [tree.directory_of_prefix (isDirectoryAt_iff.mp h) habove] at hl
        simp at hl
      rw [if_neg hfar]
    | some n =>
      cases clear l (List.prefix_append _ _) hproper n hl
      simp only [if_neg (Nat.not_lt.mpr hname.length_le), if_neg hname.ne_dots]
      cases hrest : names with
      | nil => simp [follow, hl, isDirectoryAt]
      | cons next rest =>
        rw [← hrest, hstep]
        exact ih (by simp [hrest]) (fun n hn => hnames n (List.mem_cons_of_mem _ hn)) (hstep ▸ clear)

/-- A path leads to a location: its first components lead to a directory, and the others are
names on the way down from there. -/
def Denotes (d : Disk) (p : Path) (m : Location) : Prop :=
  ∃ base names l, p.parts = base ++ names ∧ d.locate ⟨p.root, base⟩ = .ok l ∧
    d.isDirectoryAt l = true ∧ (∀ name ∈ names, IsName name) ∧ m = l ++ names

theorem locate_of_names (d : Disk) {root : Text} {base names : List Text}
    (hbase : d.locate ⟨root, base⟩ = .ok l) (hnames : ∀ name ∈ names, IsName name) :
    d.locate ⟨root, base ++ names⟩ = d.follow l names := by
  unfold locate at hbase ⊢
  split at hbase
  next => simp at hbase
  next hnull =>
    have hclean : ¬ (base ++ names).any (fun part => part.contains '\x00') = true := by
      rw [List.any_append, Bool.or_eq_true, not_or]
      refine ⟨hnull, ?_⟩
      rw [List.any_eq_true]
      rintro ⟨name, hmem, hc⟩
      exact (hnames name hmem).null_notMem (by simpa using hc)
    have hroot : (⟨root, base ++ names⟩ : Path).isAbsolute = (⟨root, base⟩ : Path).isAbsolute := rfl
    rw [if_neg hclean, follow_append, hroot, hbase]
    rfl

theorem locate_append {root : Text} {ps qs : List Text} (h : d.locate ⟨root, ps ++ qs⟩ = .ok m) :
    ∃ l, d.locate ⟨root, ps⟩ = .ok l ∧ d.follow l qs = .ok m := by
  unfold locate at h ⊢
  split at h
  next => simp at h
  next hnull =>
    rw [List.any_append, Bool.or_eq_true, not_or] at hnull
    rw [if_neg hnull.1]
    have hroot : (⟨root, ps ++ qs⟩ : Path).isAbsolute = (⟨root, ps⟩ : Path).isAbsolute := rfl
    rw [follow_append, hroot] at h
    cases hl : d.follow (if (⟨root, ps⟩ : Path).isAbsolute then [] else d.current) ps with
    | error o =>
      rw [hl] at h
      exact absurd h (by simp [Except.bind])
    | ok l =>
      rw [hl] at h
      exact ⟨l, rfl, h⟩

theorem directory_of_follow {part : Text} {parts : List Text}
    (h : d.follow l (part :: parts) = .ok m) : d.node? l = some .directory := by
  rw [follow] at h
  split at h
  next => simp at h
  next => simp at h
  next hl => exact hl

theorem follow_congr (h : ∀ k, d'.node? k = d.node? k) (l : Location) (ps : List Text) :
    d'.follow l ps = d.follow l ps := by
  induction ps generalizing l with
  | nil => rfl
  | cons part ps ih => simp only [follow, h, ih]

/-- Disks with the same nodes show the same where a path leads. -/
theorem find_congr (hcurrent : d'.current = d.current) (h : ∀ k, d'.node? k = d.node? k)
    (p : Path) : d'.find p = d.find p := by
  simp only [find, locate, hcurrent, follow_congr h, h]

theorem find_eq_ok_iff {n : Node} :
    d.find p = .ok n ↔ ∃ m, d.locate p = .ok m ∧ d.node? m = some n := by
  unfold find
  cases d.locate p with
  | error o => simp [bind, Except.bind]
  | ok m =>
    cases hm : d.node? m with
    | none => simp [hm, bind, Except.bind, throw, throwThe, MonadExceptOf.throw]
    | some n => simp [hm, bind, Except.bind, pure, Except.pure]

theorem exists_eq_true_iff : d.exists p = .ok true ↔ ∃ n, d.find p = .ok n := by
  unfold Disk.exists
  cases d.find p with
  | ok n => simp
  | error o => cases o <;> simp

theorem makeDirectory_eq_ok (h : d.makeDirectory p = .ok d') :
    ∃ m, d.locate p = .ok m ∧ d.node? m = none ∧ d' = d.put m .directory := by
  unfold makeDirectory at h
  cases hlocate : d.locate p with
  | error o => simp [hlocate, bind, Except.bind] at h
  | ok m =>
    simp only [hlocate, bind, Except.bind] at h
    split at h
    next => simp [throw, throwThe, MonadExceptOf.throw] at h
    next hm =>
      split at h
      next => exact ⟨m, rfl, hm, (Except.ok.inj h).symm⟩
      next => simp [throw, throwThe, MonadExceptOf.throw] at h

/-- What cannot be made is left if it is a directory. -/
theorem find_of_left {o : Obstacle}
    (h : (if (d.find p).toOption = some .directory then Except.ok d else .error o) = .ok d') :
    d.find p = .ok .directory ∧ d' = d := by
  split at h
  next hfind =>
    cases hd : d.find p with
    | error o => simp [hd, Except.toOption] at hfind
    | ok n =>
      simp only [hd, Except.toOption, Option.some.injEq] at hfind
      exact ⟨by rw [hfind], (Except.ok.inj h).symm⟩
  next => simp at h

theorem ensureDirectory_eq_ok (h : d.ensureDirectory p = .ok d') :
    d.makeDirectory p = .ok d' ∨ d.find p = .ok .directory ∧ d' = d := by
  unfold ensureDirectory at h
  split at h
  next hmake =>
    cases Except.ok.inj h
    exact Or.inl hmake
  next => simp at h
  next => exact Or.inr (find_of_left h)

theorem ensureFrom_cons_eq_ok {root part : Text} {parts : List Text}
    (h : d.ensureFrom root (part :: parts) = .ok d') :
    d.ensureDirectory ⟨root, (part :: parts).reverse⟩ = .ok d' ∨
      ∃ d₁, d.ensureFrom root parts = .ok d₁ ∧
        d₁.ensureDirectory ⟨root, (part :: parts).reverse⟩ = .ok d' := by
  rw [ensureFrom] at h
  cases hmake : d.makeDirectory ⟨root, (part :: parts).reverse⟩ with
  | ok d₁ =>
    simp only [hmake] at h
    exact Or.inl (by rw [ensureDirectory, hmake]; exact h)
  | error o =>
    cases o with
    | missing =>
      simp only [hmake] at h
      cases habove : d.ensureFrom root parts with
      | error o => simp [habove, bind, Except.bind] at h
      | ok d₁ => exact Or.inr ⟨d₁, rfl, by simpa [habove, bind, Except.bind] using h⟩
    | notDirectory | isDirectory | «exists» | tooLong | badName =>
      simp only [hmake] at h
      exact Or.inl (by rw [ensureDirectory, hmake]; exact h)

theorem write_eq_ok {bytes : Text.Bytes} (h : d.write p bytes = .ok d') :
    ∃ m mode, d.locate p = .ok m ∧ d.node? m ≠ some .directory ∧
      d' = d.put m (.file bytes mode) := by
  unfold write at h
  cases hlocate : d.locate p with
  | error o => simp [hlocate, bind, Except.bind] at h
  | ok m =>
    simp only [hlocate, bind, Except.bind] at h
    split at h
    next => simp [throw, throwThe, MonadExceptOf.throw] at h
    next mode hm => exact ⟨m, mode, rfl, by simp [hm], (Except.ok.inj h).symm⟩
    next hm =>
      split at h
      next => exact ⟨m, newFileMode, rfl, by simp [hm], (Except.ok.inj h).symm⟩
      next => simp [throw, throwThe, MonadExceptOf.throw] at h

theorem setMode_eq_ok {mode : Nat} (h : d.setMode p mode = .ok d') :
    ∃ m, d.locate p = .ok m ∧
      ((∃ bytes old, d.node? m = some (.file bytes old) ∧ d' = d.put m (.file bytes mode)) ∨
        d.node? m = some .directory ∧ d' = d) := by
  unfold setMode at h
  cases hlocate : d.locate p with
  | error o => simp [hlocate, bind, Except.bind] at h
  | ok m =>
    simp only [hlocate, bind, Except.bind] at h
    split at h
    next bytes old hm => exact ⟨m, rfl, Or.inl ⟨bytes, old, hm, (Except.ok.inj h).symm⟩⟩
    next hm => exact ⟨m, rfl, Or.inr ⟨hm, (Except.ok.inj h).symm⟩⟩
    next => simp [throw, throwThe, MonadExceptOf.throw] at h

theorem write_of_file {old bytes : Text.Bytes} {mode : Nat} (hp : d.locate p = .ok m)
    (hm : d.node? m = some (.file old mode)) :
    d.write p bytes = .ok (d.put m (.file bytes mode)) := by
  simp [write, hp, hm, bind, Except.bind, pure, Except.pure]

theorem setMode_of_file {bytes : Text.Bytes} {old : Nat} (hp : d.locate p = .ok m)
    (hm : d.node? m = some (.file bytes old)) (mode : Nat) :
    d.setMode p mode = .ok (d.put m (.file bytes mode)) := by
  simp [setMode, hp, hm, bind, Except.bind, pure, Except.pure]

section

variable (tree : d.IsTree)
include tree

theorem IsTree.locate (h : d.Denotes p m) (clear : d.OpenAbove m) :
    d.locate p = if d.isDirectoryAt m.dropLast then .ok m else .error .missing := by
  obtain ⟨base, names, l, hparts, hbase, hl, hnames, rfl⟩ := h
  have hp : d.locate p = d.follow l names := by
    rw [← locate_of_names d hbase hnames, ← hparts]
  rw [hp]
  by_cases hne : names = []
  · subst hne
    rw [List.append_nil, if_pos (tree.parent l _ (isDirectoryAt_iff.mp hl))]
    rfl
  · exact tree.follow_names hne hnames clear

theorem IsTree.find (h : d.Denotes p m) (clear : d.OpenAbove m) :
    d.find p = match d.node? m with
      | some n => .ok n
      | none => .error .missing := by
  rw [Disk.find, tree.locate h clear]
  by_cases hd : d.isDirectoryAt m.dropLast = true
  · rw [if_pos hd]
    rfl
  · rw [if_neg hd, tree.node?_eq_none_of_dropLast hd]
    rfl

theorem IsTree.exists_eq (h : d.Denotes p m) (clear : d.OpenAbove m) :
    d.exists p = .ok (d.node? m).isSome := by
  rw [Disk.exists, tree.find h clear]
  cases d.node? m <;> rfl

theorem IsTree.makeDirectory (h : d.Denotes p m) (clear : d.OpenAbove m) :
    d.makeDirectory p = match d.node? m with
      | some _ => .error .exists
      | none =>
        if d.isDirectoryAt m.dropLast then .ok (d.put m .directory) else .error .missing := by
  rw [Disk.makeDirectory, tree.locate h clear]
  by_cases hd : d.isDirectoryAt m.dropLast = true
  · rw [if_pos hd]
    rfl
  · simp only [tree.node?_eq_none_of_dropLast hd, if_neg hd]
    rfl

theorem IsTree.write (h : d.Denotes p m) (clear : d.OpenAbove m)
    (hparent : d.isDirectoryAt m.dropLast = true) (hm : d.node? m ≠ some .directory)
    (bytes : Text.Bytes) : ∃ mode, d.write p bytes = .ok (d.put m (.file bytes mode)) := by
  have hloc := tree.locate h clear
  rw [if_pos hparent] at hloc
  cases hn : d.node? m with
  | none =>
    exact ⟨newFileMode, by
      simp [Disk.write, hloc, hn, hparent, bind, Except.bind, pure, Except.pure]⟩
  | some n =>
    cases n with
    | directory => exact absurd hn hm
    | file old mode => exact ⟨mode, write_of_file hloc hn⟩

theorem IsTree.setMode (h : d.Denotes p m) (clear : d.OpenAbove m)
    {bytes : Text.Bytes} {old : Nat} (hm : d.node? m = some (.file bytes old)) (mode : Nat) :
    d.setMode p mode = .ok (d.put m (.file bytes mode)) := by
  have hloc := tree.locate h clear
  rw [if_pos (tree.parent m _ hm)] at hloc
  exact setMode_of_file hloc hm mode

end

end Stencil.Disk
