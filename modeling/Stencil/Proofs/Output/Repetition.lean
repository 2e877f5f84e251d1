import Stencil.Proofs.Output.Steps
import Stencil.Proofs.Output.Writing

namespace Stencil

open Disk

namespace GeneratedFile

/-- The file's name is relative and never leads up. -/
def LeadsDown (f : GeneratedFile) : Prop :=
  (Path.parse f.filename).isAbsolute = false ∧ ['.', '.'] ∉ (Path.parse f.filename).parts

instance (f : GeneratedFile) : Decidable f.LeadsDown :=
  inferInstanceAs (Decidable (_ ∧ _))

variable {f g : GeneratedFile} {d : Disk} {root : Path} {m : Location}

theorem LeadsDown.child_eq (hf : f.LeadsDown) (root : Path) :
    root.child f.filename = ⟨root.root, root.parts ++ (Path.parse f.filename).parts⟩ := by
  rw [Path.child, Path.join, hf.1]
  rfl

-- Of names that lead up this is not true: `x/../b` leads to the place of `b`, but only once `x` is made.
/-- Names that lead down from one directory to one place make the same path. -/
theorem LeadsDown.child_injective (hf : f.LeadsDown) (hg : g.LeadsDown)
    (hfm : d.locate (root.child f.filename) = .ok m)
    (hgm : d.locate (root.child g.filename) = .ok m) :
    root.child f.filename = root.child g.filename := by
  rw [hf.child_eq] at hfm ⊢
  rw [hg.child_eq] at hgm ⊢
  obtain ⟨l, hl, hfollow⟩ := locate_append hfm
  obtain ⟨l', hl', hfollow'⟩ := locate_append hgm
  cases Except.ok.inj (hl.symm.trans hl')
  have hfparts := follow_eq_foldl hfollow
  have hgparts := follow_eq_foldl hfollow'
  rw [foldl_enter_of_notMem l hf.2] at hfparts
  rw [foldl_enter_of_notMem l hg.2, hfparts] at hgparts
  rw [List.append_cancel_left hgparts]

end GeneratedFile

/-- A disk after files have been written to it: a file that is only created is there, and of the
files that are overwritten at one place the last is what stands there. -/
inductive Settled (root : Path) (d : Disk) : List GeneratedFile → Prop
  | nil : Settled root d []
  | skipped {f : GeneratedFile} {files : List GeneratedFile} (mode : f.mode = .skip)
    (rest : Settled root d files) : Settled root d (f :: files)
  | created {f : GeneratedFile} {files : List GeneratedFile} (mode : f.mode = .createOnly)
    (present : d.exists (root.child f.filename) = .ok true) (rest : Settled root d files) :
    Settled root d (f :: files)
  | overwritten {f : GeneratedFile} {files : List GeneratedFile} {m : Location} {bits : Nat}
    (mode : f.mode = .writeAlways) (bits_eq : permissionBits f.permissions = .ok bits)
    (parent : d.find (root.child f.filename).parent = .ok .directory)
    (place : d.locate (root.child f.filename) = .ok m) (file : d.HoldsFile m)
    (last : (∀ g ∈ files, g.mode = .writeAlways → d.locate (root.child g.filename) ≠ .ok m) →
      d.node? m = some (.file (Text.encode f.content) bits))
    (rest : Settled root d files) : Settled root d (f :: files)

/-- The second disk is the first one but for places that files still to come are written to. -/
structure Pending (root : Path) (d : Disk) (files : List GeneratedFile) (e : Disk) : Prop where
  current : e.current = d.current
  node? : ∀ l, e.node? l = d.node? l ∨ (d.HoldsFile l ∧ e.HoldsFile l ∧
    ∃ g ∈ files, g.mode = .writeAlways ∧ d.locate (root.child g.filename) = .ok l)

section

variable {d d' e : Disk} {p root : Path} {l m : Location} {merge : Merge} {last : Versions}
  {f output : GeneratedFile} {files : List GeneratedFile} {assets : List Asset} {bytes : Text.Bytes}
  {mode bits : Nat}

theorem outputFor_of_not_merge (hmerge : f.mode ≠ .merge)
    (h : outputFor merge last p f d = .ok (some output)) :
    output = f ∧ (f.mode = .writeAlways ∨ f.mode = .createOnly ∧ d.exists p = .ok false) := by
  rcases outputFor_eq_ok h with ⟨hnone, -⟩ | ⟨hsame, hskip, honly⟩ | ⟨hmode, -⟩
  · exact absurd hnone (by simp)
  · refine ⟨Option.some.inj hsame, ?_⟩
    cases hmode : f.mode with
    | skip => exact absurd hmode hskip
    | merge => exact absurd hmode hmerge
    | writeAlways => exact Or.inl rfl
    | createOnly => exact Or.inr ⟨rfl, honly hmode⟩
  · exact absurd hmode hmerge

namespace Writes

/-- A file that no later file overwrites stays as it is: one that is only created finds it there. -/
theorem node?_of_last (h : Writes merge last root d files assets d')
    (plain : ∀ g ∈ files, g.LeadsDown ∧ g.mode ≠ .merge) (hf : f.LeadsDown)
    (place : d.locate (root.child f.filename) = .ok m) (hm : d.node? m = some (.file bytes mode))
    (free : ∀ g ∈ files, g.mode = .writeAlways → d'.locate (root.child g.filename) ≠ .ok m) :
    d'.node? m = some (.file bytes mode) := by
  induction h with
  | nil d => exact hm
  | left _ _ ih =>
    exact ih (List.forall_mem_cons.mp plain).2 place hm (List.forall_mem_cons.mp free).2
  | @landed d d₁ d' g output files assets k bits goes _ lands rest ih =>
    obtain ⟨⟨hdown, hmerge⟩, hplain⟩ := List.forall_mem_cons.mp plain
    obtain ⟨hg, hfree⟩ := List.forall_mem_cons.mp free
    -- a file that lands at the same place overwrites, or has not found anything there
    have hne : m ≠ k := by
      rintro rfl
      rcases (outputFor_of_not_merge hmerge goes).2 with hmode | ⟨-, habsent⟩
      · exact hg hmode (rest.grows.locate lands.locate)
      · have hsame := hdown.child_injective hf lands.locate (lands.grows.locate place)
        have hpresent := exists_eq_true_iff.mpr ⟨_, find_eq_ok_iff.mpr ⟨m, place, hm⟩⟩
        rw [hsame, hpresent] at habsent
        exact absurd habsent (by simp)
    exact ih hplain (lands.grows.locate place) (lands.node?_file hne hm) hfree

theorem settled (h : Writes merge last root d files assets d')
    (plain : ∀ g ∈ files, g.LeadsDown ∧ g.mode ≠ .merge) : Settled root d' files := by
  induction h with
  | nil d => exact .nil
  | @left d d' f files assets stays rest ih =>
    obtain ⟨⟨-, hmerge⟩, hplain⟩ := List.forall_mem_cons.mp plain
    rcases outputFor_eq_ok stays with ⟨-, hmode | ⟨hmode, hpresent⟩⟩ | ⟨hsome, -⟩ | ⟨hmode, -⟩
    · exact .skipped hmode (ih hplain)
    · obtain ⟨n, hn⟩ := exists_eq_true_iff.mp hpresent
      exact .created hmode (exists_eq_true_iff.mpr (rest.grows.exists_find hn)) (ih hplain)
    · exact absurd hsome (by simp)
    · exact absurd hmode hmerge
  | @landed d d₁ d' f output files assets m bits goes hbits lands rest ih =>
    obtain ⟨⟨hdown, hmerge⟩, hplain⟩ := List.forall_mem_cons.mp plain
    obtain ⟨rfl, hmode | ⟨hmode, -⟩⟩ := outputFor_of_not_merge hmerge goes
    · exact .overwritten hmode hbits (rest.grows.find_directory lands.parent)
        (rest.grows.locate lands.locate) (rest.grows.file m ⟨_, _, lands.node?⟩)
        (rest.node?_of_last hplain hdown lands.locate lands.node?) (ih hplain)
    · have hfound := rest.grows.exists_find (find_eq_ok_iff.mpr ⟨m, lands.locate, lands.node?⟩)
      exact .created hmode (exists_eq_true_iff.mpr hfound) (ih hplain)

end Writes

namespace Pending

theorem refl (root : Path) (d : Disk) (files : List GeneratedFile) : Pending root d files d :=
  ⟨rfl, fun _ => Or.inl rfl⟩

theorem grows (h : Pending root d files e) : d.Grows e where
  current := h.current
  directory l hl := by
    rcases h.node? l with hsame | ⟨⟨bytes, mode, hfile⟩, -⟩
    · rw [hsame, hl]
    · rw [hl] at hfile
      exact absurd hfile (by simp)
  file l hl := by
    rcases h.node? l with hsame | ⟨-, hfile, -⟩
    · obtain ⟨bytes, mode, hfile⟩ := hl
      exact ⟨bytes, mode, hsame.trans hfile⟩
    · exact hfile

theorem tail (h : Pending root d (f :: files) e) (hmode : f.mode ≠ .writeAlways) :
    Pending root d files e where
  current := h.current
  node? l := by
    refine (h.node? l).imp_right fun ⟨hd, he, g, hg, hwrite, hplace⟩ => ⟨hd, he, g, ?_, hwrite, hplace⟩
    rcases List.mem_cons.mp hg with rfl | hg
    · exact absurd hwrite hmode
    · exact hg

/-- A file that is written again catches up with what stands at its place, unless another file is to
be written there. -/
theorem put (h : Pending root d (f :: files) e) (place : d.locate (root.child f.filename) = .ok m)
    (file : d.HoldsFile m) (old : Nat)
    (last : (∀ g ∈ files, g.mode = .writeAlways → d.locate (root.child g.filename) ≠ .ok m) →
      d.node? m = some (.file (Text.encode f.content) bits)) :
    Pending root d files ((e.put m (.file (Text.encode f.content) old)).put m
      (.file (Text.encode f.content) bits)) where
  current := by rw [current_put, current_put, h.current]
  node? l := by
    have hne : m ≠ [] := by
      obtain ⟨bytes, mode, hm⟩ := file
      exact ne_nil_of_not_directory (d := d) (by simp [hm])
    by_cases hl : l = m
    · subst hl
      by_cases hmore : ∃ g ∈ files, g.mode = .writeAlways ∧ d.locate (root.child g.filename) = .ok l
      · exact Or.inr ⟨file, ⟨_, _, node?_put_self _ hne _⟩, hmore⟩
      · rw [node?_put_self _ hne]
        exact Or.inl (last fun g hg hmode hplace => hmore ⟨g, hg, hmode, hplace⟩).symm
    · have hsame : ((e.put m (.file (Text.encode f.content) old)).put m
          (.file (Text.encode f.content) bits)).node? l = e.node? l := by
        rw [node?_put _ hne, if_neg hl, node?_put _ hne, if_neg hl]
      rw [hsame]
      refine (h.node? l).imp_right fun ⟨hd, ⟨bytes, mode, he⟩, g, hg, hmode, hplace⟩ =>
        ⟨hd, ⟨bytes, mode, hsame.trans he⟩, g, ?_, hmode, hplace⟩
      rcases List.mem_cons.mp hg with rfl | hg
      · exact absurd (Except.ok.inj (hplace.symm.trans place)) hl
      · exact hg

end Pending

/-- Writing again where a file stands makes no directories. -/
theorem storeText_run_of_file {content permissions : Text} {old : Text.Bytes} {oldMode : Nat}
    (parent : d.find p.parent = .ok .directory) (place : d.locate p = .ok m)
    (hm : d.node? m = some (.file old oldMode)) (hbits : permissionBits permissions = .ok bits) :
    (storeText p content permissions).run d =
      (.ok (), (d.put m (.file (Text.encode content) oldMode)).put m
        (.file (Text.encode content) bits)) := by
  have hnodir : d.node? m ≠ some .directory := by simp [hm]
  have hne := ne_nil_of_not_directory hnodir
  have hgrows : d.Grows (d.put m (.file (Text.encode content) oldMode)) := .put_file hnodir _ _
  have hset := setMode_of_file (hgrows.locate place) (node?_put_self d hne _) bits
  rw [storeText, DiskTask.run_bind_ok _ (DiskTask.run_change (ensureDirectories_of_find parent)),
    DiskTask.run_bind_ok _ (DiskTask.run_change (write_of_file place hm)), hbits,
    DiskTask.run_bind_ok _ (DiskTask.run_ofExcept _ _), DiskTask.run_change hset]

theorem writeFile_run_of_none (h : outputFor merge last (root.child f.filename) f d = .ok none) :
    (writeFile merge last root f).run d = (.ok none, d) := by
  have hask : (DiskTask.ask (outputFor merge last (root.child f.filename) f)).run d = (.ok none, d) := by
    rw [DiskTask.run_ask, h]
  rw [writeFile, DiskTask.run_bind_ok _ hask]
  rfl

theorem writeFiles_run_cons {asset : Option Asset} {d₁ d₂ : Disk}
    (hfirst : (writeFile merge last root f).run d = (.ok asset, d₁))
    (hrest : (writeFiles merge last root files).run d₁ = (.ok assets, d₂)) :
    (writeFiles merge last root (f :: files)).run d = (.ok (asset.toList ++ assets), d₂) := by
  rw [writeFiles, DiskTask.run_bind_ok _ hfirst, DiskTask.run_bind_ok _ hrest]
  rfl

/-- Files that a disk has settled on are written again, and in the end the disk is the same. -/
theorem Settled.run (merge : Merge) (last : Versions) (h : Settled root d files)
    (pending : Pending root d files e) :
    ∃ assets e', (writeFiles merge last root files).run e = (.ok assets, e') ∧
      Pending root d [] e' := by
  -- on the files still to be written: only at their places the disk may lag behind
  induction h generalizing e with
  | nil => exact ⟨[], e, rfl, pending⟩
  | @skipped f files mode rest ih =>
    obtain ⟨assets, e', hrun, hend⟩ := ih (pending.tail (by simp [mode]))
    have hnone : outputFor merge last (root.child f.filename) f e = .ok none := by
      rw [outputFor, if_pos mode]
      rfl
    exact ⟨_, e', writeFiles_run_cons (writeFile_run_of_none hnone) hrun, hend⟩
  | @created f files mode present rest ih =>
    obtain ⟨assets, e', hrun, hend⟩ := ih (pending.tail (by simp [mode]))
    obtain ⟨n, hn⟩ := exists_eq_true_iff.mp present
    have hpresent := exists_eq_true_iff.mpr (pending.grows.exists_find hn)
    have hnone : outputFor merge last (root.child f.filename) f e = .ok none := by
      rw [outputFor_eq hpresent (by simp [mode])]
      simp [mode]
    exact ⟨_, e', writeFiles_run_cons (writeFile_run_of_none hnone) hrun, hend⟩
  | @overwritten f files m bits mode bits_eq parent place file final rest ih =>
    obtain ⟨old, oldMode, hold⟩ := pending.grows.file m file
    have hplace := pending.grows.locate place
    obtain ⟨assets, e', hrun, hend⟩ := ih (pending.put place file oldMode final)
    have hpresent := exists_eq_true_iff.mpr ⟨_, find_eq_ok_iff.mpr ⟨m, hplace, hold⟩⟩
    have hask : (DiskTask.ask (outputFor merge last (root.child f.filename) f)).run e =
        (.ok (some f), e) := by
      rw [DiskTask.run_ask, outputFor_eq hpresent (by simp [mode])]
      simp [mode]
    have hfirst : (writeFile merge last root f).run e = (.ok (some f.asset),
        (e.put m (.file (Text.encode f.content) oldMode)).put m
          (.file (Text.encode f.content) bits)) := by
      rw [writeFile, DiskTask.run_bind_ok _ hask]
      exact DiskTask.run_bind_ok _
        (storeText_run_of_file (pending.grows.find_directory parent) hplace hold bits_eq)
    exact ⟨_, e', writeFiles_run_cons hfirst hrun, hend⟩

/-- If files with names that lead down are written and none of them is to be joined, then writing
them again succeeds and leaves everything as it is, whichever of them have one name. -/
theorem writeFiles_again (names : ∀ f ∈ files, f.LeadsDown) (hmerge : ∀ f ∈ files, f.mode ≠ .merge)
    (h : (writeFiles merge last root files).run d = (.ok assets, d')) :
    ∃ again d'', (writeFiles merge last root files).run d' = (.ok again, d'') ∧
      (∀ l, d''.node? l = d'.node? l) ∧ ∀ p, d''.find p = d'.find p := by
  have hsettled := (writes_of_run h).settled fun f hf => ⟨names f hf, hmerge f hf⟩
  obtain ⟨again, d'', hrun, hend⟩ := hsettled.run merge last (.refl root d' files)
  have hnode : ∀ l, d''.node? l = d'.node? l := by
    intro l
    rcases hend.node? l with hsame | ⟨-, -, g, hg, -⟩
    · exact hsame
    · exact absurd hg List.not_mem_nil
  exact ⟨again, d'', hrun, hnode, find_congr hend.current hnode⟩

end

/-- Files that meet at one place in either mode, one that is there already and one that is skipped. -/
def meetingFiles : List GeneratedFile :=
  [⟨"main.go", "new", .createOnly, "644"⟩, ⟨"a/b.txt", "one", .createOnly, "600"⟩,
    ⟨"a/./b.txt", "two", .writeAlways, "755"⟩, ⟨"a//b.txt", "three", .createOnly, "644"⟩,
    ⟨"a/b.txt", "four", .writeAlways, "640"⟩, ⟨"run.sh", "new", .skip, "rw"⟩]

def meetingDisk : Disk :=
  (outputDisk.put ["out", "a"] .directory).put ["out", "a", "b.txt"] (.file (Text.encode "four") 0o640)

theorem writeFiles_again_meetingFiles :
    (∀ f ∈ meetingFiles, f.LeadsDown) ∧ (∀ f ∈ meetingFiles, f.mode ≠ .merge) ∧
      ((writeFiles refuseMerge [] ⟨[], ["out"]⟩ meetingFiles).run
        outputDisk).1.toOption.isSome = true ∧
      ((writeFiles refuseMerge [] ⟨[], ["out"]⟩ meetingFiles).run outputDisk).2 = meetingDisk ∧
      ∃ again d'', (writeFiles refuseMerge [] ⟨[], ["out"]⟩ meetingFiles).run meetingDisk =
          (.ok again, d'') ∧
        (∀ l, d''.node? l = meetingDisk.node? l) ∧ ∀ p, d''.find p = meetingDisk.find p := by
  have names : ∀ f ∈ meetingFiles, f.LeadsDown := by decide
  have hmerge : ∀ f ∈ meetingFiles, f.mode ≠ .merge := by decide
  have hdisk : ((writeFiles refuseMerge [] ⟨[], ["out"]⟩ meetingFiles).run outputDisk).2 =
      meetingDisk := by
    decide +kernel
  have hok : ((writeFiles refuseMerge [] ⟨[], ["out"]⟩ meetingFiles).run
      outputDisk).1.toOption.isSome = true := by
    decide +kernel
  refine ⟨names, hmerge, hok, hdisk, ?_⟩
  rcases hrun : (writeFiles refuseMerge [] ⟨[], ["out"]⟩ meetingFiles).run outputDisk with
    ⟨e | assets, d'⟩ <;> rw [hrun] at hdisk hok
  · cases hok
  · rw [← hdisk]
    exact writeFiles_again names hmerge hrun

end Stencil
