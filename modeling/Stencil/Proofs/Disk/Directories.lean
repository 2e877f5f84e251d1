import Stencil.Proofs.Disk.Route

namespace Stencil.Disk

variable {d d' : Disk} {l m : Location} {p : Path}

/-- The second disk is the first one with directories all the way down to a location. -/
structure Deepened (d : Disk) (m : Location) (d' : Disk) : Prop where
  tree : d'.IsTree
  current : d'.current = d.current
  node? : ∀ l, d'.node? l = if l <+: m then some .directory else d.node? l

theorem Deepened.directory (h : Deepened d m d') (hl : l <+: m) :
    d'.node? l = some .directory := by
  rw [h.node?, if_pos hl]

theorem Deepened.openAbove (h : Deepened d m.dropLast d') : d'.OpenAbove m := by
  intro l hl hlm n hn
  rw [h.directory (prefix_dropLast_of_ne hl hlm)] at hn
  exact (Option.some.inj hn).symm

theorem Denotes.mono (h : d.Denotes p m) (hcurrent : d'.current = d.current)
    (hkeep : ∀ k, d.node? k = some .directory → d'.node? k = some .directory) :
    d'.Denotes p m := by
  obtain ⟨base, names, l, hparts, hbase, hl, hnames, rfl⟩ := h
  exact ⟨base, names, l, hparts, locate_mono hcurrent hkeep hbase,
    isDirectoryAt_iff.mpr (hkeep l (isDirectoryAt_iff.mp hl)), hnames, rfl⟩

theorem Deepened.denotes (h : Deepened d l d') (hp : d.Denotes p m) : d'.Denotes p m := by
  refine hp.mono h.current fun k hk => ?_
  rw [h.node?, hk]
  split <;> rfl

/-- Names behind a path lead down from its location. -/
theorem Denotes.append (h : d.Denotes p m) {names : List Text}
    (hnames : ∀ name ∈ names, IsName name) :
    d.Denotes { p with parts := p.parts ++ names } (m ++ names) := by
  obtain ⟨base, inner, l, hparts, hbase, hl, hinner, rfl⟩ := h
  refine ⟨base, inner ++ names, l, ?_, hbase, hl, ?_, by simp⟩
  · simp [hparts]
  · intro name hmem
    rcases List.mem_append.mp hmem with hmem | hmem
    · exact hinner name hmem
    · exact hnames name hmem

theorem Denotes.isName_getLast (h : d.Denotes p m) (hm : ¬ d.isDirectoryAt m = true)
    (hne : m ≠ []) : IsName (m.getLast hne) := by
  obtain ⟨base, names, l, _, _, hl, hnames, rfl⟩ := h
  have hnonempty : names ≠ [] := by
    rintro rfl
    exact hm (by simpa using hl)
  rw [List.getLast_append_of_ne_nil _ hnonempty]
  exact hnames _ (List.getLast_mem hnonempty)

theorem Denotes.parent (h : d.Denotes p m) (hm : ¬ d.isDirectoryAt m = true) :
    d.Denotes p.parent m.dropLast := by
  obtain ⟨base, names, l, hparts, hbase, hl, hnames, rfl⟩ := h
  have hnonempty : names ≠ [] := by
    rintro rfl
    exact hm (by simpa using hl)
  refine ⟨base, names.dropLast, l, ?_, hbase, hl, ?_, ?_⟩
  · rw [Path.parent, hparts, List.dropLast_append_of_ne_nil hnonempty]
  · exact fun name hmem => hnames name (List.dropLast_subset names hmem)
  · exact List.dropLast_append_of_ne_nil hnonempty

theorem IsTree.deepened (tree : d.IsTree) (hm : d.node? m = some .directory) :
    Deepened d m d where
  tree := tree
  current := rfl
  node? := by
    intro l
    split
    next h => exact tree.directory_of_prefix hm h
    next => rfl

theorem Deepened.put (h : Deepened d m.dropLast d') (hne : m ≠ [])
    (hname : IsName (m.getLast hne)) : Deepened d m (d'.put m .directory) where
  tree := by
    refine h.tree.put hne ?_ hname fun _ => rfl
    rw [isDirectoryAt_iff, h.directory List.prefix_rfl]
  current := (current_put d' m .directory).trans h.current
  node? := by
    intro l
    rw [node?_put d' hne, h.node?]
    by_cases hlm : l = m
    · rw [if_pos hlm, if_pos (hlm ▸ List.prefix_rfl)]
    · rw [if_neg hlm]
      by_cases hp : l <+: m
      · rw [if_pos (prefix_dropLast_of_ne hp hlm), if_pos hp]
      · rw [if_neg (fun h => hp (h.trans (List.dropLast_prefix m))), if_neg hp]

theorem IsTree.ensureDirectory (tree : d.IsTree) (h : d.Denotes p m) (clear : d.OpenAbove m)
    (hparent : d.isDirectoryAt m.dropLast = true)
    (hfree : ∀ n, d.node? m = some n → n = .directory) :
    ∃ d', d.ensureDirectory p = .ok d' ∧ Deepened d m d' := by
  cases hm : d.node? m with
  | some n =>
    cases hfree n hm
    refine ⟨d, ?_, tree.deepened hm⟩
    simp [Disk.ensureDirectory, tree.makeDirectory h clear, tree.find h clear, hm, Except.toOption]
  | none =>
    have hne := ne_nil_of_none hm
    have hname := h.isName_getLast (by simp [hm]) hne
    refine ⟨d.put m .directory, ?_, (tree.deepened (isDirectoryAt_iff.mp hparent)).put hne hname⟩
    simp [Disk.ensureDirectory, tree.makeDirectory h clear, hm, isDirectoryAt_iff.mp hparent]

/-- The components of the path are taken off from the end until a directory is found, and the
directories are then made on the way back. -/
theorem IsTree.ensureFrom {root : Text} {parts : List Text} (tree : d.IsTree)
    (h : d.Denotes ⟨root, parts.reverse⟩ m)
    (clear : ∀ l, l <+: m → ∀ n, d.node? l = some n → n = .directory) :
    ∃ d', d.ensureFrom root parts = .ok d' ∧ Deepened d m d' := by
  have hopen : d.OpenAbove m := fun l hl _ => clear l hl
  induction parts generalizing m with
  | nil =>
    have hm : d.isDirectoryAt m = true := by
      obtain ⟨base, names, l, hparts, _, hl, _, rfl⟩ := h
      simp only [List.reverse_nil, List.nil_eq, List.append_eq_nil_iff] at hparts
      simpa [hparts.2] using hl
    exact tree.ensureDirectory h hopen (tree.parent m _ (isDirectoryAt_iff.mp hm))
      (clear m List.prefix_rfl)
  | cons part parts ih =>
    have hmake := tree.makeDirectory h hopen
    by_cases hparent : d.isDirectoryAt m.dropLast = true
    · -- the one directory at the end is all that can be missing
      have hsame : d.ensureFrom root (part :: parts) =
          d.ensureDirectory ⟨root, (part :: parts).reverse⟩ := by
        rw [Disk.ensureFrom, Disk.ensureDirectory, hmake]
        cases d.node? m <;> simp [isDirectoryAt_iff.mp hparent]
      rw [hsame]
      exact tree.ensureDirectory h hopen hparent (clear m List.prefix_rfl)
    · have hm : d.node? m = none := tree.node?_eq_none_of_dropLast hparent
      have hne := ne_nil_of_none hm
      have hnodir : ¬ d.isDirectoryAt m = true := by simp [hm]
      have habove : d.Denotes ⟨root, parts.reverse⟩ m.dropLast :=
        by simpa [Path.parent] using h.parent hnodir
      have hclear : ∀ l, l <+: m.dropLast → ∀ n, d.node? l = some n → n = .directory :=
        fun l hl => clear l (hl.trans (List.dropLast_prefix m))
      obtain ⟨d₁, hok, hdeep⟩ := ih habove hclear fun l hl _ => hclear l hl
      have hm₁ : d₁.node? m = none := by
        rw [hdeep.node?, if_neg (not_prefix_dropLast hne), hm]
      have hmake₁ := hdeep.tree.makeDirectory (hdeep.denotes h) hdeep.openAbove
      have hparent₁ := hdeep.directory List.prefix_rfl
      refine ⟨d₁.put m .directory, ?_, hdeep.put hne (h.isName_getLast hnodir hne)⟩
      simp only [hm, if_neg hparent] at hmake
      simp only [hm₁, isDirectoryAt_iff, hparent₁, if_true] at hmake₁
      rw [Disk.ensureFrom, hmake]
      simp only [hok]
      show d₁.ensureDirectory _ = _
      rw [Disk.ensureDirectory, hmake₁]

theorem IsTree.ensureDirectories (tree : d.IsTree) (h : d.Denotes p m)
    (clear : ∀ l, l <+: m → ∀ n, d.node? l = some n → n = .directory) :
    ∃ d', d.ensureDirectories p = .ok d' ∧ Deepened d m d' :=
  tree.ensureFrom (by simpa using h) clear

end Stencil.Disk
