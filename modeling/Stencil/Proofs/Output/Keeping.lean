import Stencil.Proofs.Output.Confinement
import Stencil.Proofs.Output.Repetition
import Stencil.Proofs.Output.Validity
import Stencil.Proofs.Text.Utf8

namespace Stencil

open Disk

/-- A merge decides to keep what stands on disk: it answers the content and permissions read there. -/
structure MergeKeeps (merge : Merge) (last : Versions) (f : GeneratedFile) (source : SourceFile)
    (output : GeneratedFile) : Prop where
  answer : merge source f (last.lookup f.filename) = .ok output
  content : output.content = source.content
  permissions : output.permissions = source.permissions

section

variable {d d' d₁ : Disk} {p root : Path} {l m : Location} {merge : Merge} {last : Versions}
  {f output : GeneratedFile} {before after : List GeneratedFile} {written : List Asset}
  {name t : Text} {bytes : Text.Bytes} {mode : Nat}

theorem permissionBits_permissionText (hmode : mode ≤ 0o777) :
    permissionBits (permissionText mode) = .ok mode := by
  have hmod : mode % 0o1000 = mode := Nat.mod_eq_of_lt (by omega)
  rw [permissionText, hmod]
  exact permissionBits_of_octal (Text.octal?_octal_self mode) (by omega)

theorem sourceAt_of_file (h : d.find p = .ok (.file (Text.encode t) mode)) :
    sourceAt p name d = .ok ⟨name, Text.normalizeNewlines t, permissionText mode⟩ := by
  have hread : d.read p = .ok (Text.encode t) := by
    rw [Disk.read, h]
    rfl
  have hmode : d.mode p = .ok mode := by
    rw [Disk.mode, h]
    rfl
  simp only [sourceAt, hread, hmode, DiskTask.ofObstacle, Text.decode?_encode, bind, Except.bind,
    pure, Except.pure]

theorem outputFor_of_merge {source : SourceFile} (merged : f.mode = .merge)
    (present : d.exists p = .ok true) (hsource : sourceAt p f.filename d = .ok source)
    (answer : merge source f (last.lookup f.filename) = .ok output) :
    outputFor merge last p f d = .ok (some output) := by
  simp [outputFor, merged, present, hsource, answer, bind, Except.bind, pure, Except.pure]

theorem Disk.LeadsInto.parts_child_ne_nil (into : d.LeadsInto root l)
    (place : d.locate (root.child name) = .ok m) (file : d.HoldsFile m) :
    (root.child name).parts ≠ [] := by
  intro hparts
  obtain ⟨bytes, mode, hm⟩ := file
  have hdir : d.node? m = some .directory := by
    rw [Path.child, Path.join] at place hparts
    split at place
    next habs =>
      rw [if_pos habs] at hparts
      rw [locate, hparts, if_pos habs] at place
      cases Except.ok.inj place
      rfl
    next habs =>
      rw [if_neg habs] at hparts
      have hroot : root.parts ++ (Path.parse name).parts = root.parts := by
        rw [(List.append_eq_nil_iff.mp hparts).2, List.append_nil]
      rw [hroot] at place
      cases Except.ok.inj (into.1.symm.trans place)
      exact into.2
  rw [hdir] at hm
  exact absurd hm (by simp)

theorem Disk.find_parent_of_locate (place : d.locate p = .ok m) (hne : p.parts ≠ []) :
    d.find p.parent = .ok .directory := by
  obtain ⟨name, base, part, rfl⟩ : ∃ name base part, p = ⟨name, base ++ [part]⟩ :=
    ⟨p.root, _, _, by rw [List.dropLast_append_getLast hne]⟩
  obtain ⟨k, hk, hfollow⟩ := locate_append place
  rw [Path.parent, List.dropLast_concat]
  exact find_eq_ok_iff.mpr ⟨k, hk, directory_of_follow hfollow⟩

/-- A file that a merge keeps is written back as the text that was read from it. -/
theorem writeFile_run_of_keeps (into : d.LeadsInto root l)
    (place : d.locate (root.child f.filename) = .ok m)
    (file : d.node? m = some (.file (Text.encode t) mode)) (hmode : mode ≤ 0o777)
    (merged : f.mode = .merge)
    (keeps : MergeKeeps merge last f
      ⟨f.filename, Text.normalizeNewlines t, permissionText mode⟩ output) :
    ∃ d', (writeFile merge last root f).run d = (.ok (some output.asset), d') ∧
      d'.node? m = some (.file (Text.encode (Text.normalizeNewlines t)) mode) := by
  have hfind := find_eq_ok_iff.mpr ⟨m, place, file⟩
  have hne := into.parts_child_ne_nil place ⟨_, _, file⟩
  have houtput := outputFor_of_merge merged (exists_eq_true_iff.mpr ⟨_, hfind⟩)
    (sourceAt_of_file hfind) keeps.answer
  have hask : (DiskTask.ask (outputFor merge last (root.child f.filename) f)).run d =
      (.ok (some output), d) := by
    rw [DiskTask.run_ask, houtput]
  have hbits : permissionBits output.permissions = .ok mode := by
    rw [keeps.permissions]
    exact permissionBits_permissionText hmode
  have hparent := find_parent_of_locate place hne
  refine ⟨(d.put m (.file (Text.encode output.content) mode)).put m
    (.file (Text.encode output.content) mode), ?_, ?_⟩
  · rw [writeFile, DiskTask.run_bind_ok _ hask]
    exact DiskTask.run_bind_ok _ (storeText_run_of_file hparent place file hbits)
  · have hne : m ≠ [] := ne_nil_of_not_directory (d := d) (by simp [file])
    rw [node?_put_self _ hne, keeps.content]

theorem writeFiles_node?_apart (merge : Merge) (last : Versions) {files : List GeneratedFile}
    (into : d.LeadsInto root l) (apart : ∀ g ∈ files, g.mode ≠ .skip → m ∉ g.trail l) :
    ((writeFiles merge last root files).run d).2.node? m = d.node? m :=
  (writeFiles_changesOnly merge last root l files d into).node? m
    fun ⟨g, hg, hmode, hm⟩ => apart g hg hmode hm

/-- Of the files that are written, one is to be joined with a file that a merge decides to keep, and no
other comes past it. What ends the writing before its turn leaves the kept file alone. Its own turn
ends well and gives it the permissions that it had, and its bytes are the same if and only if there is
no carriage return in the text. -/
theorem writeFiles_keeps (into : d.LeadsInto root l)
    (place : d.locate (root.child f.filename) = .ok m)
    (file : d.node? m = some (.file (Text.encode t) mode)) (hmode : mode ≤ 0o777)
    (merged : f.mode = .merge)
    (keeps : ∀ source, sourceAt (root.child f.filename) f.filename d = .ok source →
      ∃ output, MergeKeeps merge last f source output)
    (apart : ∀ g ∈ before ++ after, g.mode ≠ .skip → m ∉ g.trail l) :
    (∀ cause, ((writeFiles merge last root before).run d).1 = .error cause →
      ((writeFiles merge last root (before ++ f :: after)).run d).2.node? m = d.node? m) ∧
    ∀ written, ((writeFiles merge last root before).run d).1 = .ok written →
      (∃ asset, ((writeFiles merge last root (before ++ [f])).run d).1 = .ok (written ++ [asset])) ∧
      ((writeFiles merge last root (before ++ f :: after)).run d).2.node? m =
        some (.file (Text.encode (Text.normalizeNewlines t)) mode) ∧
      (((writeFiles merge last root (before ++ f :: after)).run d).2.node? m = d.node? m ↔
        '\r' ∉ t) := by
  have hbefore := writeFiles_node?_apart merge last into fun g hg =>
    apart g (List.mem_append_left after hg)
  have hchanged := writeFiles_changesOnly merge last root l before d into
  rcases hrun : (writeFiles merge last root before).run d with ⟨cause | written, d₁⟩ <;>
    rw [hrun] at hbefore hchanged
  · refine ⟨fun _ _ => ?_, fun _ h => absurd h (by simp)⟩
    rw [writeFiles_append, DiskTask.run_bind_error _ hrun]
    exact hbefore
  · refine ⟨fun _ h => absurd h (by simp), fun written' h => ?_⟩
    cases Except.ok.inj h
    -- the file is found as it was before the others were written
    have into₁ := hchanged.leadsInto into
    have place₁ := locate_mono hchanged.current hchanged.directory place
    have file₁ : d₁.node? m = some (.file (Text.encode t) mode) := hbefore.trans file
    obtain ⟨output, hkeeps⟩ :=
      keeps _ (sourceAt_of_file (find_eq_ok_iff.mpr ⟨m, place, file⟩))
    obtain ⟨d₂, hown, hnode⟩ := writeFile_run_of_keeps into₁ place₁ file₁ hmode merged hkeeps
    have into₂ : d₂.LeadsInto root l := by
      have hchanged₂ := writeFile_changesOnly merge last root l f d₁ into₁
      rw [hown] at hchanged₂
      exact hchanged₂.leadsInto into₁
    have hfinal : ((writeFiles merge last root (before ++ f :: after)).run d).2.node? m =
        some (.file (Text.encode (Text.normalizeNewlines t)) mode) := by
      rw [writeFiles_append, DiskTask.run_bind_ok _ hrun, DiskTask.run_bind_pure_snd, writeFiles,
        DiskTask.run_bind_ok _ hown, DiskTask.run_bind_pure_snd]
      exact (writeFiles_node?_apart merge last into₂ fun g hg =>
        apart g (List.mem_append_right before hg)).trans hnode
    refine ⟨⟨output.asset, ?_⟩, hfinal, ?_⟩
    · have hone : (writeFiles merge last root [f]).run d₁ = (.ok [output.asset], d₂) :=
        writeFiles_run_cons hown rfl
      rw [writeFiles_append, DiskTask.run_bind_ok _ hrun, DiskTask.run_bind_ok _ hone]
      rfl
    · rw [hfinal, file, Option.some.injEq, Node.file.injEq, and_iff_left rfl]
      exact Text.encode_normalizeNewlines_eq_iff

end

/-- Keeps what stands on disk, with the filename and the mode of the new file. -/
def keepSource : Merge := fun source f _ =>
  .ok { f with content := source.content, permissions := source.permissions }

theorem mergeKeeps_keepSource (last : Versions) (f : GeneratedFile) (source : SourceFile) :
    MergeKeeps keepSource last f source
      { f with content := source.content, permissions := source.permissions } :=
  ⟨rfl, rfl, rfl⟩

/-- A new version of a file that its owner has changed. -/
def keptFile : GeneratedFile :=
  ⟨"main.go", "new", .merge, "644"⟩

theorem writeFiles_keeps_keptFile :
    outputDisk.node? ["out", "main.go"] = some (.file (Text.encode "mine") 0o600) ∧
      (∀ g ∈ windingFiles.take 1 ++ windingFiles.drop 1, g.mode ≠ .skip →
        (["out", "main.go"] : Location) ∉ g.trail ["out"]) ∧
      ((writeFiles keepSource [] ⟨[], ["out"]⟩ (windingFiles.take 1)).run outputDisk).1.toOption.isSome ∧
      ((writeFiles keepSource [] ⟨[], ["out"]⟩
        (windingFiles.take 1 ++ keptFile :: windingFiles.drop 1)).run outputDisk).2.node?
          ["out", "main.go"] = some (.file (Text.encode "mine") 0o600) := by
  have into : outputDisk.LeadsInto ⟨[], ["out"]⟩ ["out"] := ⟨rfl, rfl⟩
  have file : outputDisk.node? ["out", "main.go"] = some (.file (Text.encode "mine") 0o600) := rfl
  have apart : ∀ g ∈ windingFiles.take 1 ++ windingFiles.drop 1, g.mode ≠ .skip →
      (["out", "main.go"] : Location) ∉ g.trail ["out"] := by
    decide
  have hbefore : ((writeFiles keepSource [] ⟨[], ["out"]⟩
      (windingFiles.take 1)).run outputDisk).1.toOption.isSome = true := by
    decide +kernel
  refine ⟨file, apart, hbefore, ?_⟩
  have hkept := (writeFiles_keeps into rfl file (by decide) (f := keptFile) rfl
    (fun source _ => ⟨_, mergeKeeps_keepSource [] keptFile source⟩) apart).2
  rcases hrun : ((writeFiles keepSource [] ⟨[], ["out"]⟩ (windingFiles.take 1)).run outputDisk).1 with
    cause | written
  · rw [hrun] at hbefore
    cases hbefore
  · exact (hkept written hrun).2.1

/-- The same directory with line ends of two characters in the file that its owner has changed. -/
def carriageDisk : Disk :=
  outputDisk.put ["out", "main.go"] (.file (Text.encode "one\r\ntwo\r\n") 0o600)

/-- A merge that decides to keep a file does not keep its carriage returns. -/
theorem writeFiles_keeps_no_carriage :
    carriageDisk.LeadsInto ⟨[], ["out"]⟩ ["out"] ∧
      carriageDisk.locate ((⟨[], ["out"]⟩ : Path).child keptFile.filename) =
        .ok ["out", "main.go"] ∧
      carriageDisk.node? ["out", "main.go"] = some (.file (Text.encode "one\r\ntwo\r\n") 0o600) ∧
      keptFile.mode = .merge ∧
      (∀ source, ∃ output, MergeKeeps keepSource [] keptFile source output) ∧
      ((writeFiles keepSource [] ⟨[], ["out"]⟩ [keptFile]).run carriageDisk).2.node?
        ["out", "main.go"] ≠ carriageDisk.node? ["out", "main.go"] :=
  ⟨⟨rfl, rfl⟩, rfl, by decide +kernel, rfl, fun source => ⟨_, mergeKeeps_keepSource [] keptFile source⟩,
    by decide +kernel⟩

end Stencil
