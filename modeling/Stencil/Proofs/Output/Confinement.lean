import Stencil.Output.Directive
import Stencil.Proofs.Disk.Trail
import Stencil.Proofs.Output.Writing

namespace Stencil

open Disk

namespace DiskTask

variable {α β : Type} {p : Path} {l : Location} {places : Location → Prop}

/-- Where a path leads into a directory, an action changes a disk only in some places, whether or
not it fails. -/
def ChangesOnly (p : Path) (l : Location) (places : Location → Prop) (a : DiskTask α) : Prop :=
  ∀ d : Disk, d.LeadsInto p l → ChangedOnly d places (a.run d).2

theorem ChangesOnly.bind {a : DiskTask α} {f : α → DiskTask β} (ha : ChangesOnly p l places a)
    (hf : ∀ x, ChangesOnly p l places (f x)) : ChangesOnly p l places (a >>= f) := by
  intro d into
  have hchanged := ha d into
  rw [run_bind]
  rcases hrun : a.run d with ⟨_ | x, d₁⟩
  · rwa [hrun] at hchanged
  · rw [hrun] at hchanged
    exact hchanged.trans (hf x d₁ (hchanged.leadsInto into))

theorem changesOnly_pure (x : α) : ChangesOnly p l places (pure x) :=
  fun d _ => .refl d places

theorem changesOnly_ofExcept (x : Except Fault α) : ChangesOnly p l places (ofExcept x) := by
  intro d _
  rw [run_ofExcept]
  exact .refl d places

theorem changesOnly_change {f : Disk → Except Obstacle Disk}
    (h : ∀ d d', d.LeadsInto p l → f d = .ok d' → ChangedOnly d places d') :
    ChangesOnly p l places (change f) := by
  intro d into
  cases hf : f d with
  | error o =>
    rw [run_change_of_error hf]
    exact .refl d places
  | ok d' =>
    rw [run_change hf]
    exact h d d' into hf

end DiskTask

namespace GeneratedFile

/-- The locations that a file's name leads to, one after the other, from a directory or, if the name
is absolute, from the top. -/
def trail (f : GeneratedFile) (l : Location) : List Location :=
  Disk.trail (if (Path.parse f.filename).isAbsolute then [] else l) (Path.parse f.filename).parts

/-- The file's name is relative and never leads further up than it has led down. -/
def IsConfined (f : GeneratedFile) : Prop :=
  (Path.parse f.filename).isAbsolute = false ∧ staysBelow 0 (Path.parse f.filename).parts = true

instance (f : GeneratedFile) : Decidable f.IsConfined :=
  inferInstanceAs (Decidable (_ ∧ _))

theorem IsConfined.prefix_of_mem_trail {f : GeneratedFile} {l m : Location} (h : f.IsConfined)
    (hm : m ∈ f.trail l) : l <+: m := by
  rw [trail, h.1, if_neg Bool.false_ne_true] at hm
  have hbelow : staysBelow ([] : List Text).length (Path.parse f.filename).parts = true := h.2
  exact Disk.prefix_of_mem_trail hbelow (by rwa [List.append_nil])

end GeneratedFile

section

variable {d d' : Disk} {l m : Location} {base inner : List Text} {name : Text} {root : Path}
  {f : GeneratedFile} {files : List GeneratedFile}

theorem storeText_changesOnly (name : Text) (base inner : List Text) (l : Location)
    (content permissions : Text) :
    DiskTask.ChangesOnly ⟨name, base⟩ l (· ∈ trail l inner)
      (storeText ⟨name, base ++ inner⟩ content permissions) := by
  refine .bind ?_ fun _ => .bind ?_ fun _ => .bind ?_ fun mode => ?_
  · exact DiskTask.changesOnly_change fun _ _ into => into.ensureDirectories_parent
  · exact DiskTask.changesOnly_change fun _ _ into => into.write
  · exact DiskTask.changesOnly_ofExcept _
  · exact DiskTask.changesOnly_change fun _ _ into => into.setMode

theorem leadsInto_top (d : Disk) (h : (⟨name, []⟩ : Path).isAbsolute = true) :
    d.LeadsInto ⟨name, []⟩ [] :=
  ⟨by rw [locate, if_pos h]; rfl, rfl⟩

theorem storeText_child_changesOnly (root : Path) (l : Location) (f : GeneratedFile)
    (content permissions : Text) :
    DiskTask.ChangesOnly root l (· ∈ f.trail l)
      (storeText (root.child f.filename) content permissions) := by
  rw [Path.child, Path.join, GeneratedFile.trail]
  cases habs : (Path.parse f.filename).isAbsolute with
  | true =>
    intro d _
    exact storeText_changesOnly _ [] _ [] content permissions d (leadsInto_top d habs)
  | false => exact storeText_changesOnly root.root root.parts _ l content permissions

theorem writeFile_changesOnly (merge : Merge) (last : Versions) (root : Path) (l : Location)
    (f : GeneratedFile) :
    DiskTask.ChangesOnly root l (fun m => f.mode ≠ .skip ∧ m ∈ f.trail l)
      (writeFile merge last root f) := by
  intro d into
  by_cases hskip : f.mode = .skip
  · have hask : (DiskTask.ask (outputFor merge last (root.child f.filename) f)).run d =
        (.ok none, d) := by
      rw [DiskTask.run_ask, outputFor, if_pos hskip]
      rfl
    rw [writeFile, DiskTask.run_bind_ok _ hask]
    exact .refl d _
  · have hwrite : DiskTask.ChangesOnly root l (· ∈ f.trail l) (writeFile merge last root f) := by
      refine .bind (fun d _ => ?_) fun output => ?_
      · rw [DiskTask.run_ask]
        exact .refl d _
      · cases output with
        | none => exact DiskTask.changesOnly_pure none
        | some output =>
          exact .bind (storeText_child_changesOnly root l f output.content output.permissions)
            fun _ => DiskTask.changesOnly_pure _
    exact (hwrite d into).mono fun m hm => ⟨hskip, hm⟩

theorem writeFiles_changesOnly (merge : Merge) (last : Versions) (root : Path) (l : Location)
    (files : List GeneratedFile) :
    DiskTask.ChangesOnly root l (fun m => ∃ f ∈ files, f.mode ≠ .skip ∧ m ∈ f.trail l)
      (writeFiles merge last root files) := by
  induction files with
  | nil => exact DiskTask.changesOnly_pure []
  | cons f files ih =>
    refine .bind (fun d into => ?_) fun asset => .bind (fun d into => ?_) fun assets => ?_
    · exact (writeFile_changesOnly merge last root l f d into).mono fun m hm =>
        ⟨f, List.mem_cons_self, hm⟩
    · exact (ih d into).mono fun m ⟨g, hg, hm⟩ => ⟨g, List.mem_cons_of_mem f hg, hm⟩
    · exact DiskTask.changesOnly_pure _

/-- Writing files into a directory that is there before the run, whether or not it fails, changes a
disk only along the names of files that are not skipped; when none of these names leads up or is
absolute, the changes lie inside the directory. A directory that is missing would be made, with those
above it, and these lie outside. -/
theorem writeFiles_changes_inside (merge : Merge) (last : Versions) (files : List GeneratedFile)
    (into : d.LeadsInto root l) :
    (∀ m, ((writeFiles merge last root files).run d).2.node? m ≠ d.node? m →
      ∃ f ∈ files, f.mode ≠ .skip ∧ m ∈ f.trail l) ∧
    ((∀ f ∈ files, f.mode ≠ .skip → f.IsConfined) →
      ∀ m, ((writeFiles merge last root files).run d).2.node? m ≠ d.node? m → l <+: m ∧ m ≠ l) := by
  have hchanged := writeFiles_changesOnly merge last root l files d into
  have hplaces : ∀ m, ((writeFiles merge last root files).run d).2.node? m ≠ d.node? m →
      ∃ f ∈ files, f.mode ≠ .skip ∧ m ∈ f.trail l := fun m hm =>
    not_not.mp fun hnot => hm (hchanged.node? m hnot)
  refine ⟨hplaces, fun confined m hm => ⟨?_, ?_⟩⟩
  · obtain ⟨f, hf, hmode, htrail⟩ := hplaces m hm
    exact (confined f hf hmode).prefix_of_mem_trail htrail
  · rintro rfl
    exact hm ((hchanged.directory m into.2).trans into.2.symm)

end

/-- A file whose name goes up inside the output directory, and one whose permissions are refused
after it has been written. -/
def windingFiles : List GeneratedFile :=
  [⟨"a/../b.txt", "new", .writeAlways, "644"⟩, ⟨"./c/d.txt", "new", .createOnly, "rw"⟩]

theorem writeFiles_changes_inside_windingFiles :
    outputDisk.LeadsInto ⟨[], ["out"]⟩ ["out"] ∧
      (∀ f ∈ windingFiles, f.mode ≠ .skip → f.IsConfined) ∧
      ((writeFiles refuseMerge [] ⟨[], ["out"]⟩ windingFiles).run outputDisk).1.toOption = none ∧
      ∀ m, ((writeFiles refuseMerge [] ⟨[], ["out"]⟩ windingFiles).run outputDisk).2.node? m ≠
        outputDisk.node? m → (["out"] : Location) <+: m ∧ m ≠ ["out"] := by
  have into : outputDisk.LeadsInto ⟨[], ["out"]⟩ ["out"] := ⟨rfl, rfl⟩
  have hconfined : ∀ f ∈ windingFiles, f.mode ≠ .skip → f.IsConfined := by decide
  exact ⟨into, hconfined, Option.isNone_iff_eq_none.mp (by decide +kernel),
    (writeFiles_changes_inside refuseMerge [] windingFiles into).2 hconfined⟩

/-- Texts that name a file beside the output directory and one from the top of the disk. -/
def outsideTexts : Text × Text :=
  ("#FILENAME:../x.txt\nnew".toList, "#FILENAME:/etc/x.txt\nnew".toList)

/-- The name of a file may lead out of the output directory or be absolute. -/
theorem writeFiles_changes_outside :
    outputDisk.LeadsInto ⟨[], ["out"]⟩ ["out"] ∧
      (¬ ∀ m, ((writeFiles refuseMerge [] ⟨[], ["out"]⟩
          (splitFiles "index" outsideTexts.1)).run outputDisk).2.node? m ≠ outputDisk.node? m →
        (["out"] : Location) <+: m ∧ m ≠ ["out"]) ∧
      ¬ ∀ m, ((writeFiles refuseMerge [] ⟨[], ["out"]⟩
          (splitFiles "index" outsideTexts.2)).run outputDisk).2.node? m ≠ outputDisk.node? m →
        (["out"] : Location) <+: m ∧ m ≠ ["out"] := by
  refine ⟨⟨rfl, rfl⟩, fun inside => ?_, fun inside => ?_⟩
  · exact absurd (inside ["x.txt"] (by decide +kernel)).1 (by decide)
  · exact absurd (inside ["etc", "x.txt"] (by decide +kernel)).1 (by decide)

end Stencil
