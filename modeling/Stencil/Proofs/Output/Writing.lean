import Stencil.Output.Writer
import Stencil.Proofs.Disk.Directories
import Stencil.Proofs.Disk.Task

namespace Stencil

open Disk

namespace GeneratedFile

def components (f : GeneratedFile) : List Text :=
  f.filename.splitOn '/'

/-- The file is written below a location of a disk: it is not to be skipped, and a file that is only
to be created is not there yet. -/
def isWritten (f : GeneratedFile) (d : Disk) (l : Location) : Bool :=
  f.mode ≠ .skip && !(f.mode = .createOnly && (d.node? (l ++ f.components)).isSome)

/-- A disk takes every component of the file's name as it stands. -/
def IsAcceptable (f : GeneratedFile) : Prop :=
  ∀ name ∈ f.components, '\x00' ∉ name ∧ (Text.encode name).length ≤ maxNameBytes

instance (f : GeneratedFile) : Decidable f.IsAcceptable :=
  inferInstanceAs (Decidable (∀ name ∈ f.components, _))

end GeneratedFile

/-- Files that find their places below a location of a disk: their names are plain and no name leads
into another, no directory stands where a file belongs, and no file where a directory belongs. -/
structure Placeable (d : Disk) (l : Location) (files : List GeneratedFile) : Prop where
  distinct : (files.map GeneratedFile.filename).Nodup
  plain : ∀ f ∈ files, ∀ name ∈ f.components, Path.IsPlain name
  apart : ∀ f ∈ files, ∀ g ∈ files, f.components <+: g.components → f.components = g.components
  noDirectory : ∀ f ∈ files, d.node? (l ++ f.components) ≠ some .directory
  openAbove : ∀ f ∈ files, d.OpenAbove (l ++ f.components)
  mergeFree : ∀ f ∈ files, f.mode = .merge → d.node? (l ++ f.components) = none
  permissions : ∀ f ∈ files, ∃ bits : Nat, bits < 0o10000 ∧ Text.octal? f.permissions = some (bits : Int)

/-- The second disk is the first one after files have been written below a location: each file that
is written stands in its place, and nothing else changes but for new directories above them. -/
structure Written (d : Disk) (l : Location) (files : List GeneratedFile) (d' : Disk) : Prop where
  tree : d'.IsTree
  current : d'.current = d.current
  stored : ∀ f ∈ files, f.isWritten d l = true → ∃ bits : Nat,
    Text.octal? f.permissions = some (bits : Int) ∧
      d'.node? (l ++ f.components) = some (.file (Text.encode f.content) bits)
  kept : ∀ f ∈ files, f.isWritten d l = false →
    d'.node? (l ++ f.components) = d.node? (l ++ f.components)
  elsewhere : ∀ m, (∀ f ∈ files, m ≠ l ++ f.components) → d'.node? m = d.node? m ∨
    d.node? m = none ∧ d'.node? m = some .directory ∧
      ∃ f ∈ files, f.isWritten d l = true ∧ m <+: l ++ f.components

/-- The second disk is the first one with a file stored at a location, below directories. -/
structure Stored (d : Disk) (m : Location) (bytes : Text.Bytes) (mode : Nat) (d' : Disk) :
    Prop where
  tree : d'.IsTree
  current : d'.current = d.current
  node? : ∀ l, d'.node? l =
    if l = m then some (.file bytes mode) else if l <+: m then some .directory else d.node? l

section

variable {d : Disk} {m : Location} {p : Path}

theorem permissionBits_of_octal {t : Text} {n : Nat} (h : Text.octal? t = some (n : Int))
    (hn : n < 0o10000) : permissionBits t = .ok n := by
  have hlimit : -permissionLimit ≤ (n : Int) ∧ (n : Int) < permissionLimit := by
    unfold permissionLimit
    omega
  have hmod : ((n : Int) % 0o10000).toNat = n := by omega
  simp [permissionBits, h, hlimit, hmod]

/-- Putting a file where no directory stands leaves paths leading where they led before. -/
theorem Disk.Denotes.put_file (h : d.Denotes p m) (hm : d.node? m ≠ some .directory)
    (bytes : Text.Bytes) (mode : Nat) : (d.put m (.file bytes mode)).Denotes p m :=
  h.mono (current_put d m _) fun _ hk => directory_put hm hk _

theorem storeText_run (tree : d.IsTree) (h : d.Denotes p m) (clear : d.OpenAbove m)
    (hm : d.node? m ≠ some .directory) (content : Text) {permissions : Text} {mode : Nat}
    (hmode : permissionBits permissions = .ok mode) :
    ∃ d', (storeText p content permissions).run d = (.ok (), d') ∧
      Stored d m (Text.encode content) mode d' := by
  have hne := ne_nil_of_not_directory hm
  have hnodir : ¬ d.isDirectoryAt m = true := by simpa using hm
  have hname := h.isName_getLast hnodir hne
  -- the directories above are made first
  obtain ⟨d₁, hmake, hdeep⟩ := tree.ensureDirectories (h.parent hnodir) fun l hl =>
    clear l (hl.trans (List.dropLast_prefix m)) fun heq => not_prefix_dropLast hne (heq ▸ hl)
  have hparent₁ : d₁.isDirectoryAt m.dropLast = true := by
    rw [isDirectoryAt_iff, hdeep.directory List.prefix_rfl]
  have hm₁ : d₁.node? m ≠ some .directory := by
    rwa [hdeep.node?, if_neg (not_prefix_dropLast hne)]
  have h₁ := hdeep.denotes h
  -- then the file is written, and then it gets its permissions
  obtain ⟨old, hwrite⟩ := hdeep.tree.write h₁ hdeep.openAbove hparent₁ hm₁ (Text.encode content)
  have tree₂ := hdeep.tree.put hne hparent₁ hname (n := .file (Text.encode content) old)
    fun hdir => absurd hdir hm₁
  have h₂ := h₁.put_file hm₁ (Text.encode content) old
  have hnode₂ := node?_put_self d₁ hne (.file (Text.encode content) old)
  have hset := tree₂.setMode h₂ (tree₂.openAbove hnode₂) hnode₂ mode
  refine ⟨(d₁.put m (.file (Text.encode content) old)).put m (.file (Text.encode content) mode),
    ?_, ?_⟩
  · rw [storeText, DiskTask.run_bind_ok _ (DiskTask.run_change hmake),
      DiskTask.run_bind_ok _ (DiskTask.run_change hwrite), hmode,
      DiskTask.run_bind_ok _ (DiskTask.run_ofExcept _ _), DiskTask.run_change hset]
  · refine ⟨?_, ?_, ?_⟩
    · exact tree₂.put hne (tree₂.parent m _ hnode₂) hname (by simp [hnode₂])
    · rw [current_put, current_put, hdeep.current]
    · intro l
      rw [node?_put _ hne, node?_put _ hne, hdeep.node?]
      by_cases hlm : l = m
      · rw [if_pos hlm, if_pos hlm]
      · simp only [if_neg hlm]
        by_cases hl : l <+: m
        · rw [if_pos hl, if_pos (prefix_dropLast_of_ne hl hlm)]
        · rw [if_neg hl, if_neg fun h => hl (h.trans (List.dropLast_prefix m))]

end

section

variable {d d' d₁ d₂ : Disk} {l : Location} {root : Path} {merge : Merge} {last : Versions}
  {f g : GeneratedFile} {files : List GeneratedFile}

theorem Placeable.tail (h : Placeable d l (f :: files)) : Placeable d l files where
  distinct := (List.nodup_cons.mp h.distinct).2
  plain g hg := h.plain g (List.mem_cons_of_mem f hg)
  apart g hg k hk := h.apart g (List.mem_cons_of_mem f hg) k (List.mem_cons_of_mem f hk)
  noDirectory g hg := h.noDirectory g (List.mem_cons_of_mem f hg)
  openAbove g hg := h.openAbove g (List.mem_cons_of_mem f hg)
  mergeFree g hg := h.mergeFree g (List.mem_cons_of_mem f hg)
  permissions g hg := h.permissions g (List.mem_cons_of_mem f hg)

theorem Placeable.not_prefix (h : Placeable d l (f :: files)) (hg : g ∈ files) :
    ¬ f.components <+: g.components ∧ ¬ g.components <+: f.components := by
  have hne : f.components ≠ g.components := by
    intro heq
    refine (List.nodup_cons.mp h.distinct).1 ?_
    rw [Path.splitOn_injective '/' heq]
    exact List.mem_map_of_mem hg
  have hf : f ∈ f :: files := List.mem_cons_self
  have hg : g ∈ f :: files := List.mem_cons_of_mem f hg
  exact ⟨fun hp => hne (h.apart f hf g hg hp), fun hp => hne (h.apart g hg f hf hp).symm⟩

theorem Placeable.location_ne (h : Placeable d l (f :: files)) :
    ∀ g ∈ files, l ++ f.components ≠ l ++ g.components := by
  intro g hg heq
  exact (h.not_prefix hg).1 (List.append_cancel_left heq ▸ List.prefix_rfl)

theorem Placeable.isName (h : Placeable d l files) (hf : f ∈ files) (accept : f.IsAcceptable) :
    ∀ name ∈ f.components, IsName name := by
  intro name hmem
  obtain ⟨hnull, hlen⟩ := accept name hmem
  exact ⟨h.plain f hf name hmem, Path.notMem_of_mem_splitOn hmem, hnull, hlen⟩

theorem Placeable.denotes (h : Placeable d l files) (hroot : d'.Denotes root l) (hf : f ∈ files)
    (accept : f.IsAcceptable) : d'.Denotes (root.child f.filename) (l ++ f.components) := by
  rw [Path.child_of_plain (h.plain f hf)]
  exact hroot.append (h.isName hf accept)

theorem outputFor_eq {p : Path} {b : Bool} (hexists : d.exists p = .ok b)
    (hmerge : f.mode = .merge → b = false) :
    outputFor merge last p f d =
      .ok (if f.mode ≠ .skip && !(f.mode = .createOnly && b) then some f else none) := by
  cases hm : f.mode <;> cases b <;>
    simp_all [outputFor, bind, Except.bind, pure, Except.pure]

theorem Stored.written {bits : Nat} (h : Stored d (l ++ f.components) (Text.encode f.content) bits d')
    (hbits : Text.octal? f.permissions = some (bits : Int)) (hw : f.isWritten d l = true)
    (hopen : d.OpenAbove (l ++ f.components)) : Written d l [f] d' where
  tree := h.tree
  current := h.current
  stored := by
    intro g hg _
    rw [List.mem_singleton.mp hg]
    exact ⟨bits, hbits, by rw [h.node?, if_pos rfl]⟩
  kept := by
    intro g hg hkept
    rw [List.mem_singleton.mp hg, hw] at hkept
    exact absurd hkept (by decide)
  elsewhere := by
    intro m hm
    have hne := hm f List.mem_cons_self
    rw [h.node?, if_neg hne]
    split
    next hp =>
      cases hn : d.node? m with
      | none => exact Or.inr ⟨rfl, rfl, f, List.mem_cons_self, hw, hp⟩
      | some n => exact Or.inl (by rw [hopen m hp hne n hn])
    next => exact Or.inl rfl

theorem Disk.IsTree.written (tree : d.IsTree) (hkept : ∀ f ∈ files, f.isWritten d l = false) :
    Written d l files d where
  tree := tree
  current := rfl
  stored f hf hw := absurd hw (by simp [hkept f hf])
  kept _ _ _ := rfl
  elsewhere _ _ := Or.inl rfl

theorem writeFile_run (merge : Merge) (last : Versions) (tree : d.IsTree) (hroot : d.Denotes root l)
    (h : Placeable d l (f :: files)) (accept : f.IsAcceptable) :
    ∃ d', (writeFile merge last root f).run d =
        (.ok (if f.isWritten d l then some f.asset else none), d') ∧ Written d l [f] d' := by
  have hf : f ∈ f :: files := List.mem_cons_self
  have hdenotes := h.denotes hroot hf accept
  have hopen := h.openAbove f hf
  have houtput : (DiskTask.ask (outputFor merge last (root.child f.filename) f)).run d =
      (.ok (if f.isWritten d l then some f else none), d) := by
    rw [DiskTask.run_ask, outputFor_eq (tree.exists_eq hdenotes hopen) fun hm => by
      rw [h.mergeFree f hf hm]; rfl]
    rfl
  rw [writeFile, DiskTask.run_bind_ok _ houtput]
  cases hw : f.isWritten d l with
  | false => exact ⟨d, rfl, tree.written (by simpa using hw)⟩
  | true =>
    obtain ⟨bits, hlt, hbits⟩ := h.permissions f hf
    obtain ⟨d', hrun, hstored⟩ := storeText_run tree hdenotes hopen (h.noDirectory f hf)
      f.content (permissionBits_of_octal hbits hlt)
    refine ⟨d', ?_, hstored.written hbits hw hopen⟩
    simp only [if_true]
    rw [DiskTask.run_bind_ok _ hrun]
    rfl

/-- Where another file belongs, nothing changes when the first of the files is written. -/
theorem Written.node?_of_mem_tail (w : Written d l [f] d') (h : Placeable d l (f :: files))
    (hg : g ∈ files) : d'.node? (l ++ g.components) = d.node? (l ++ g.components) := by
  have hne : ∀ k ∈ [f], l ++ g.components ≠ l ++ k.components := by
    intro k hk
    rw [List.mem_singleton.mp hk]
    exact (h.location_ne g hg).symm
  rcases w.elsewhere _ hne with hsame | ⟨-, -, k, hk, -, hp⟩
  · exact hsame
  · rw [List.mem_singleton.mp hk, List.prefix_append_right_inj] at hp
    exact absurd hp (h.not_prefix hg).2

theorem Written.isWritten_tail (w : Written d l [f] d') (h : Placeable d l (f :: files))
    (hg : g ∈ files) : g.isWritten d' l = g.isWritten d l := by
  rw [GeneratedFile.isWritten, w.node?_of_mem_tail h hg, GeneratedFile.isWritten]

theorem Written.node?_directory (w : Written d l [f] d') (h : Placeable d l (f :: files))
    {m : Location} (hm : d.node? m = some .directory) : d'.node? m = some .directory := by
  have hne : m ≠ l ++ f.components := by
    rintro rfl
    exact h.noDirectory f List.mem_cons_self hm
  rcases w.elsewhere m (by simpa using hne) with hsame | ⟨hnone, -⟩
  · rw [hsame, hm]
  · rw [hm] at hnone
    exact absurd hnone (by simp)

theorem Written.placeable_tail (w : Written d l [f] d') (h : Placeable d l (f :: files)) :
    Placeable d' l files where
  distinct := h.tail.distinct
  plain := h.tail.plain
  apart := h.tail.apart
  noDirectory g hg := by
    rw [w.node?_of_mem_tail h hg]
    exact h.tail.noDirectory g hg
  openAbove g hg m hm hne n hn := by
    have hmf : m ≠ l ++ f.components := by
      rintro rfl
      exact (h.not_prefix hg).1 ((List.prefix_append_right_inj l).mp hm)
    rcases w.elsewhere m (by simpa using hmf) with hsame | ⟨-, hdir, -⟩
    · exact h.tail.openAbove g hg m hm hne n (hsame ▸ hn)
    · exact Option.some.inj (hn.symm.trans hdir)
  mergeFree g hg hm := by
    rw [w.node?_of_mem_tail h hg]
    exact h.tail.mergeFree g hg hm
  permissions := h.tail.permissions

/-- Writing one file and then the others is writing them all. -/
theorem Written.cons (h : Placeable d l (f :: files)) (w₁ : Written d l [f] d₁)
    (w₂ : Written d₁ l files d₂) : Written d l (f :: files) d₂ where
  tree := w₂.tree
  current := w₂.current.trans w₁.current
  stored := by
    intro g hg hw
    rcases List.mem_cons.mp hg with rfl | hg
    · obtain ⟨bits, hbits, hnode⟩ := w₁.stored g List.mem_cons_self hw
      refine ⟨bits, hbits, ?_⟩
      rcases w₂.elsewhere _ h.location_ne with hsame | ⟨hnone, -⟩
      · rw [hsame, hnode]
      · rw [hnode] at hnone
        exact absurd hnone (by simp)
    · exact w₂.stored g hg ((w₁.isWritten_tail h hg).trans hw)
  kept := by
    intro g hg hw
    rcases List.mem_cons.mp hg with rfl | hg
    · rw [← w₁.kept g List.mem_cons_self hw]
      rcases w₂.elsewhere _ h.location_ne with hsame | ⟨-, -, k, hk, -, hp⟩
      · exact hsame
      · exact absurd ((List.prefix_append_right_inj l).mp hp) (h.not_prefix hk).1
    · rw [w₂.kept g hg ((w₁.isWritten_tail h hg).trans hw), w₁.node?_of_mem_tail h hg]
  elsewhere := by
    intro m hm
    have hold := w₁.elsewhere m (by simpa using hm f List.mem_cons_self)
    rcases w₂.elsewhere m fun g hg => hm g (List.mem_cons_of_mem f hg) with
      hsame | ⟨hnone, hdir, g, hg, hw, hp⟩
    · rw [hsame]
      refine hold.imp_right fun ⟨hn, hd, k, hk, hw, hp⟩ => ⟨hn, hd, k, ?_, hw, hp⟩
      exact List.mem_singleton.mp hk ▸ List.mem_cons_self
    · rcases hold with hsame | ⟨-, hdir₁, -⟩
      · refine Or.inr ⟨hsame ▸ hnone, hdir, g, List.mem_cons_of_mem f hg, ?_, hp⟩
        exact (w₁.isWritten_tail h hg).symm.trans hw
      · rw [hdir₁] at hnone
        exact absurd hnone (by simp)

/-- Files that find their places are written there, and those that are to stay away or are there
already are left alone. -/
theorem writeFiles_run (merge : Merge) (last : Versions) (tree : d.IsTree)
    (hroot : d.Denotes root l) (h : Placeable d l files) (accept : ∀ f ∈ files, f.IsAcceptable) :
    ∃ d', (writeFiles merge last root files).run d =
        (.ok ((files.filter (·.isWritten d l)).map GeneratedFile.asset), d') ∧
      Written d l files d' := by
  induction files generalizing d with
  | nil => exact ⟨d, rfl, tree.written (by simp)⟩
  | cons f files ih =>
    obtain ⟨d₁, hrun₁, w₁⟩ :=
      writeFile_run merge last tree hroot h (accept f List.mem_cons_self)
    have hroot₁ := hroot.mono w₁.current fun m hm => w₁.node?_directory h hm
    obtain ⟨d₂, hrun₂, w₂⟩ := ih w₁.tree hroot₁ (w₁.placeable_tail h)
      fun g hg => accept g (List.mem_cons_of_mem f hg)
    have hsame : files.filter (·.isWritten d₁ l) = files.filter (·.isWritten d l) :=
      List.filter_congr fun g hg => w₁.isWritten_tail h hg
    refine ⟨d₂, ?_, w₁.cons h w₂⟩
    rw [writeFiles, DiskTask.run_bind_ok _ hrun₁, DiskTask.run_bind_ok _ hrun₂, hsame,
      DiskTask.run_pure, List.filter_cons]
    cases f.isWritten d l <;> rfl

theorem Written.denotes (w : Written d l files d') (h : Placeable d l files)
    (hroot : d.Denotes root l) : d'.Denotes root l := by
  refine hroot.mono w.current fun m hm => ?_
  have hne : ∀ f ∈ files, m ≠ l ++ f.components := by
    rintro f hf rfl
    exact h.noDirectory f hf hm
  rcases w.elsewhere m hne with hsame | ⟨-, hdir, -⟩
  · rw [hsame, hm]
  · exact hdir

/-- Writing files that find their places and whose names a disk takes: the records are those of the
files that are written, in order, and each of these can be read back with its permissions. Three
things are in the nature of disks and texts here and not among the hypotheses: permissions bind no
one, so a file without the right to write is replaced like any other; a path may be of any length;
and every text has its bytes, because a character is a Unicode scalar value. -/
theorem writeFiles_places_files (merge : Merge) (last : Versions) (tree : d.IsTree)
    (hroot : d.Denotes root l) (h : Placeable d l files) (accept : ∀ f ∈ files, f.IsAcceptable) :
    ∃ d', (writeFiles merge last root files).run d =
        (.ok ((files.filter (·.isWritten d l)).map GeneratedFile.asset), d') ∧
      Written d l files d' ∧
      ∀ f ∈ files, f.isWritten d l = true → ∃ bits : Nat, Text.octal? f.permissions = some (bits : Int) ∧
        d'.read (root.child f.filename) = .ok (Text.encode f.content) ∧
        d'.mode (root.child f.filename) = .ok bits := by
  obtain ⟨d', hrun, w⟩ := writeFiles_run merge last tree hroot h accept
  refine ⟨d', hrun, w, fun f hf hw => ?_⟩
  obtain ⟨bits, hbits, hnode⟩ := w.stored f hf hw
  have hdenotes := h.denotes (w.denotes h hroot) hf (accept f hf)
  have hfind := w.tree.find hdenotes (w.tree.openAbove hnode)
  rw [hnode] at hfind
  exact ⟨bits, hbits, by rw [Disk.read, hfind]; rfl, by rw [Disk.mode, hfind]; rfl⟩

end

/-- An output directory with a file that its owner has changed and one from an earlier run. -/
def outputDisk : Disk where
  nodes := [(["out"], .directory), (["out", "main.go"], .file (Text.encode "mine") 0o600),
    (["out", "run.sh"], .file (Text.encode "old") 0o644)]

/-- Files in every mode: one that is there already and one that is to be skipped are not written. -/
def outputFiles : List GeneratedFile :=
  [⟨"main.go", "new", .createOnly, "644"⟩, ⟨"run.sh", "new", .writeAlways, "755"⟩,
    ⟨"a/b.txt", "new", .merge, "600"⟩, ⟨"a/c.txt", "new", .skip, "644"⟩]

theorem outputDisk_denotes : outputDisk.Denotes ⟨[], ["out"]⟩ ["out"] :=
  ⟨["out"], [], ["out"], rfl, by decide, by decide, by decide, rfl⟩

theorem writeFiles_places_outputFiles :
    ∃ d', (writeFiles refuseMerge [] ⟨[], ["out"]⟩ outputFiles).run outputDisk =
        (.ok ((outputFiles.filter (·.isWritten outputDisk ["out"])).map GeneratedFile.asset), d') ∧
      Written outputDisk ["out"] outputFiles d' ∧
      ∀ f ∈ outputFiles, f.isWritten outputDisk ["out"] = true →
        ∃ bits : Nat, Text.octal? f.permissions = some (bits : Int) ∧
          d'.read ((⟨[], ["out"]⟩ : Path).child f.filename) = .ok (Text.encode f.content) ∧
          d'.mode ((⟨[], ["out"]⟩ : Path).child f.filename) = .ok bits := by
  have hbits : ∀ f ∈ outputFiles, ∃ bits : Nat,
      bits < 0o10000 ∧ Text.octal? f.permissions = some (bits : Int) := by
    intro f hf
    simp only [outputFiles, List.mem_cons, List.not_mem_nil, or_false] at hf
    rcases hf with rfl | rfl | rfl | rfl
    · exact ⟨0o644, by decide, by decide⟩
    · exact ⟨0o755, by decide, by decide⟩
    · exact ⟨0o600, by decide, by decide⟩
    · exact ⟨0o644, by decide, by decide⟩
  have hplaceable : Placeable outputDisk ["out"] outputFiles :=
    ⟨by decide, by decide, by decide, by decide, by decide, by decide, hbits⟩
  exact writeFiles_places_files refuseMerge [] (by decide) outputDisk_denotes hplaceable (by decide)

/-- A name with a null character and a name of 256 bytes. -/
def refusedFiles : GeneratedFile × GeneratedFile :=
  (⟨"a\x00b", "new", .writeAlways, "644"⟩, ⟨List.replicate 256 'a', "new", .writeAlways, "644"⟩)

set_option maxRecDepth 4000 in
/-- A name that no disk takes ends the writing, though nothing else is in its way. -/
theorem writeFiles_refused_names :
    outputDisk.IsTree ∧ outputDisk.Denotes ⟨[], ["out"]⟩ ["out"] ∧
      (Placeable outputDisk ["out"] [refusedFiles.1] ∧
        (writeFiles refuseMerge [] ⟨[], ["out"]⟩ [refusedFiles.1]).run outputDisk =
          (.error (.general .badValue), outputDisk)) ∧
      Placeable outputDisk ["out"] [refusedFiles.2] ∧
        (writeFiles refuseMerge [] ⟨[], ["out"]⟩ [refusedFiles.2]).run outputDisk =
          (.error (.general .osError), outputDisk) := by
  have hbits : ∀ f ∈ [refusedFiles.1, refusedFiles.2], ∃ bits : Nat,
      bits < 0o10000 ∧ Text.octal? f.permissions = some (bits : Int) := by
    intro f hf
    simp only [List.mem_cons, List.not_mem_nil, or_false] at hf
    rcases hf with rfl | rfl
    · exact ⟨0o644, by decide, by decide⟩
    · exact ⟨0o644, by decide, by decide⟩
  refine ⟨by decide, outputDisk_denotes, ⟨⟨by decide, by decide, by decide, by decide, by decide,
    by decide, ?_⟩, rfl⟩, ⟨by decide, by decide +kernel, by decide, by decide +kernel,
    by decide +kernel, by decide, ?_⟩, rfl⟩
  · exact fun f hf => hbits f (by simpa using Or.inl (List.mem_singleton.mp hf))
  · exact fun f hf => hbits f (by simpa using Or.inr (List.mem_singleton.mp hf))

end Stencil
