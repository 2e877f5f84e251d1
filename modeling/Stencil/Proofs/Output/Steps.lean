import Stencil.Output.Writer
import Stencil.Proofs.Disk.Growth

namespace Stencil

open Disk

/-- Files are written one after the other, with a record of each that lands. -/
inductive Writes (merge : Merge) (last : Versions) (root : Path) :
    Disk → List GeneratedFile → List Asset → Disk → Prop
  | nil (d : Disk) : Writes merge last root d [] [] d
  | left {d d' : Disk} {f : GeneratedFile} {files : List GeneratedFile} {assets : List Asset}
    (stays : outputFor merge last (root.child f.filename) f d = .ok none)
    (rest : Writes merge last root d files assets d') : Writes merge last root d (f :: files) assets d'
  | landed {d d₁ d' : Disk} {f output : GeneratedFile} {files : List GeneratedFile}
    {assets : List Asset} {m : Location} {mode : Nat}
    (goes : outputFor merge last (root.child f.filename) f d = .ok (some output))
    (bits : permissionBits output.permissions = .ok mode)
    (lands : Landed d (root.child f.filename) m (Text.encode output.content) mode d₁)
    (rest : Writes merge last root d₁ files assets d') :
    Writes merge last root d (f :: files) (output.asset :: assets) d'

/-- A new file is to be joined with one that stands on disk, and cannot be. -/
structure MergeFails (merge : Merge) (last : Versions) (root : Path) (f : GeneratedFile) (d : Disk)
    (cause : Fault) : Prop where
  mode : f.mode = .merge
  present : d.exists (root.child f.filename) = .ok true
  failure : ∃ source, sourceAt (root.child f.filename) f.filename d = .ok source ∧
    merge source f (last.lookup f.filename) = .error cause

variable {d d' d₁ d₂ : Disk} {p root : Path} {merge : Merge} {last : Versions} {f : GeneratedFile}
  {before after files : List GeneratedFile} {asset : Option Asset} {assets : List Asset}
  {cause : Fault}

/-- A file is left, or it goes to the disk as it is, or it is joined with what stands there. -/
theorem outputFor_eq_ok {output? : Option GeneratedFile}
    (h : outputFor merge last p f d = .ok output?) :
    (output? = none ∧ (f.mode = .skip ∨ f.mode = .createOnly ∧ d.exists p = .ok true)) ∨
      (output? = some f ∧ f.mode ≠ .skip ∧ (f.mode = .createOnly → d.exists p = .ok false)) ∨
      (f.mode = .merge ∧ ∃ source output, output? = some output ∧
        merge source f (last.lookup f.filename) = .ok output) := by
  by_cases hskip : f.mode = .skip
  · rw [outputFor, if_pos hskip] at h
    exact Or.inl ⟨(Except.ok.inj h).symm, Or.inl hskip⟩
  rw [outputFor, if_neg hskip] at h
  cases hexists : d.exists p with
  | error e => simp [hexists, bind, Except.bind] at h
  | ok present =>
    simp only [hexists, bind, Except.bind] at h
    cases present with
    | false =>
      exact Or.inr (Or.inl ⟨(Except.ok.inj h).symm, hskip, fun _ => rfl⟩)
    | true =>
      cases hmode : f.mode with
      | skip => exact absurd hmode hskip
      | createOnly =>
        simp only [hmode] at h
        exact Or.inl ⟨(Except.ok.inj h).symm, Or.inr ⟨rfl, rfl⟩⟩
      | writeAlways =>
        simp only [hmode] at h
        exact Or.inr (Or.inl ⟨(Except.ok.inj h).symm, by simp, by simp⟩)
      | merge =>
        simp only [hmode] at h
        cases hsource : sourceAt p f.filename d with
        | error e => simp [hsource] at h
        | ok source =>
          cases hmerge : merge source f (last.lookup f.filename) with
          | error e => simp [hsource, hmerge] at h
          | ok output =>
            simp only [hsource, hmerge] at h
            exact Or.inr (Or.inr ⟨rfl, source, output, (Except.ok.inj h).symm, hmerge⟩)

theorem landed_of_storeText {content permissions : Text} {u : Unit}
    (h : (storeText p content permissions).run d = (.ok u, d')) :
    ∃ m mode, permissionBits permissions = .ok mode ∧
      Landed d p m (Text.encode content) mode d' := by
  obtain ⟨_, d₁, hmake, h⟩ := DiskTask.run_bind_eq_ok.mp h
  obtain ⟨_, d₂, hwrite, h⟩ := DiskTask.run_bind_eq_ok.mp h
  obtain ⟨mode, d₃, hbits, hmode⟩ := DiskTask.run_bind_eq_ok.mp h
  rw [DiskTask.run_change_eq_ok] at hmake hwrite hmode
  rw [DiskTask.run_ofExcept] at hbits
  obtain ⟨hmodeBits, rfl⟩ := Prod.mk.inj hbits
  obtain ⟨m, hlanded⟩ := (opened_of_ensureDirectories hmake).landed hwrite hmode
  exact ⟨m, mode, hmodeBits, hlanded⟩

/-- What writing one file comes to when it ends well. -/
theorem writeFile_eq_ok (h : (writeFile merge last root f).run d = (.ok asset, d')) :
    (outputFor merge last (root.child f.filename) f d = .ok none ∧ asset = none ∧ d' = d) ∨
      ∃ output m mode, outputFor merge last (root.child f.filename) f d = .ok (some output) ∧
        asset = some output.asset ∧ permissionBits output.permissions = .ok mode ∧
        Landed d (root.child f.filename) m (Text.encode output.content) mode d' := by
  obtain ⟨output?, d₁, hask, h⟩ := DiskTask.run_bind_eq_ok.mp h
  rw [DiskTask.run_ask] at hask
  obtain ⟨houtput, rfl⟩ := Prod.mk.inj hask
  cases output? with
  | none =>
    obtain ⟨hasset, rfl⟩ := Prod.mk.inj h
    exact Or.inl ⟨houtput, (Except.ok.inj hasset).symm, rfl⟩
  | some output =>
    obtain ⟨_, d₂, hstore, h⟩ := DiskTask.run_bind_eq_ok.mp h
    obtain ⟨m, mode, hbits, hlanded⟩ := landed_of_storeText hstore
    obtain ⟨hasset, rfl⟩ := Prod.mk.inj h
    exact Or.inr ⟨output, m, mode, houtput, (Except.ok.inj hasset).symm, hbits, hlanded⟩

theorem writes_of_run (h : (writeFiles merge last root files).run d = (.ok assets, d')) :
    Writes merge last root d files assets d' := by
  induction files generalizing d assets with
  | nil =>
    obtain ⟨hassets, rfl⟩ := Prod.mk.inj h
    cases Except.ok.inj hassets
    exact .nil d
  | cons f files ih =>
    obtain ⟨asset, d₁, hfirst, h⟩ := DiskTask.run_bind_eq_ok.mp h
    obtain ⟨rest, d₂, hrest, h⟩ := DiskTask.run_bind_eq_ok.mp h
    obtain ⟨hassets, rfl⟩ := Prod.mk.inj h
    cases Except.ok.inj hassets
    rcases writeFile_eq_ok hfirst with ⟨hstays, rfl, rfl⟩ | ⟨output, m, mode, hgoes, rfl, hbits, hlands⟩
    · exact .left hstays (ih hrest)
    · exact .landed hgoes hbits hlands (ih hrest)

theorem Writes.grows (h : Writes merge last root d files assets d') : d.Grows d' := by
  induction h with
  | nil d => exact .refl d
  | left _ _ ih => exact ih
  | landed _ _ lands _ ih => exact lands.grows.trans ih

/-- Nothing has been written for a file when it turns out that it cannot be joined. -/
theorem MergeFails.writeFile_run (h : MergeFails merge last root f d cause) :
    (writeFile merge last root f).run d = (.error cause, d) := by
  obtain ⟨source, hsource, hmerge⟩ := h.failure
  have houtput : outputFor merge last (root.child f.filename) f d = .error cause := by
    simp [outputFor, h.mode, h.present, hsource, hmerge, bind, Except.bind]
  have hask : (DiskTask.ask (outputFor merge last (root.child f.filename) f)).run d =
      (.error cause, d) := by
    rw [DiskTask.run_ask, houtput]
  exact DiskTask.run_bind_error _ hask

/-- Writing two lists of files is writing the one and then the other. -/
theorem writeFiles_append (merge : Merge) (last : Versions) (root : Path)
    (before after : List GeneratedFile) :
    writeFiles merge last root (before ++ after) = do
      let first ← writeFiles merge last root before
      return first ++ (← writeFiles merge last root after) := by
  induction before with
  | nil => simp [writeFiles]
  | cons f before ih => simp only [List.cons_append, writeFiles, ih, bind_assoc, pure_bind,
      List.append_assoc]

/-- The first file that cannot be written ends the writing. The files before it are written as they
are without it. -/
theorem writeFiles_run_error (h : (writeFiles merge last root before).run d = (.ok assets, d₁))
    (hf : (writeFile merge last root f).run d₁ = (.error cause, d₂)) :
    (writeFiles merge last root (before ++ f :: after)).run d = (.error cause, d₂) := by
  rw [writeFiles_append, DiskTask.run_bind_ok _ h]
  exact DiskTask.run_bind_error _ (DiskTask.run_bind_error _ hf)

end Stencil
