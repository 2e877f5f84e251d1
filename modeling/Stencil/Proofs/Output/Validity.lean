import Stencil.Output.Writer
import Stencil.Proofs.Output.History
import Stencil.Proofs.Output.Writing
import Stencil.Proofs.Text.Numeral

namespace Stencil

/-- Permissions that a directive can give a file: three or four octal digits. -/
theorem Directive.isPermissions_iff {t : Text} :
    isPermissions t = true ↔ (t.length = 3 ∨ t.length = 4) ∧ ∀ c ∈ t, Text.IsOctalDigit c := by
  simp [isPermissions, Text.IsOctalDigit]

theorem isPermissions_defaultPermissions :
    Directive.isPermissions defaultPermissions = true := by
  decide

theorem Segment.isPermissions_ofHeader (header : Text) :
    Directive.isPermissions (ofHeader header).permissions = true := by
  rw [ofHeader]
  split
  next h => exact h
  next => exact isPermissions_defaultPermissions

/-- Permissions of at most four octal digits are the bits that they stand for. -/
theorem permissionBits_of_isPermissions {t : Text} (h : Directive.isPermissions t = true) :
    ∃ bits : Nat, bits ≤ 0o7777 ∧ Text.octal? t = some (bits : Int) ∧ permissionBits t = .ok bits := by
  obtain ⟨hlength, hdigits⟩ := Directive.isPermissions_iff.mp h
  have hne : t ≠ [] := by
    rintro rfl
    simp at hlength
  have hread := Text.octal?_octal hdigits hne
  have hbound : Text.octalFrom 0 t < 8 ^ 4 :=
    calc Text.octalFrom 0 t < (0 + 1) * 8 ^ t.length := Text.octalFrom_lt hdigits 0
      _ ≤ 8 ^ 4 := by
        rw [Nat.zero_add, Nat.one_mul]
        exact Nat.pow_le_pow_right (by decide) (by omega)
  exact ⟨_, by omega, hread, permissionBits_of_octal hread hbound⟩

namespace Splitter

variable {d source : Text} {f : GeneratedFile}

theorem isPermissions_segmentAt (history : List Call) :
    Directive.isPermissions (segmentAt d history).permissions = true := by
  rw [segmentAt]
  split
  next => exact Segment.isPermissions_ofHeader _
  next => exact isPermissions_defaultPermissions

/-- A file of a split text is the body of a kept segment. -/
theorem exists_segment_of_mem_splitFiles (h : f ∈ splitFiles d source) :
    ∃ history, (segmentAt d history).isKept = true ∧ (segmentAt d history).close keepBody = f := by
  rw [splitFiles_eq_run, run_files] at h
  obtain ⟨s, hs, rfl⟩ := List.mem_map.mp h
  obtain ⟨hclosed, hkept⟩ := List.mem_filter.mp hs
  obtain ⟨i, -, hi⟩ := List.mem_filterMap.mp hclosed
  split at hi
  next =>
    cases Option.some.inj hi
    exact ⟨_, hkept, rfl⟩
  next => simp at hi

end Splitter

/-- Every file of a split text has a mode in which it is written, something to see and no marker in
it, and permissions of three or four octal digits, which stand for at most twelve permission bits. -/
theorem valid_of_mem_splitFiles {d source : Text} {f : GeneratedFile} (h : f ∈ splitFiles d source) :
    f.mode ≠ .skip ∧ (∃ c ∈ f.content, ¬ Text.isBlankChar c) ∧
      ¬ Directive.marker <:+: f.content ∧
      (f.permissions.length = 3 ∨ f.permissions.length = 4) ∧
      (∀ c ∈ f.permissions, '0' ≤ c ∧ c ≤ '7') ∧
      ∃ bits : Nat, bits ≤ 0o7777 ∧ Text.octal? f.permissions = some (bits : Int) ∧
        permissionBits f.permissions = .ok bits := by
  obtain ⟨history, hkept, rfl⟩ := Splitter.exists_segment_of_mem_splitFiles h
  obtain ⟨hmode, line, hline, c, hc, hvisible⟩ := Segment.isKept_iff.mp hkept
  have hpermissions := Splitter.isPermissions_segmentAt (d := d) history
  obtain ⟨hlength, hdigits⟩ := Directive.isPermissions_iff.mp hpermissions
  refine ⟨hmode, ⟨c, ?_, hvisible⟩, ?_, hlength, hdigits,
    permissionBits_of_isPermissions hpermissions⟩
  · exact (Text.infix_unlines_of_mem hline).subset hc
  · intro hmarker
    obtain ⟨marked, hmem, hin⟩ :=
      Text.exists_infix_of_unlines (by decide) (by decide) hmarker
    exact Splitter.not_infix_of_mem_segmentAt hmem hin

/-- A file with permissions in the digits of another script, which are not taken over. -/
theorem valid_of_mem_splitFiles_arabic :
    (⟨"run.sh", "echo\n", .merge, "644"⟩ : GeneratedFile) ∈
        splitFiles "index" "#FILENAME: run.sh : merge : \u0667\u0665\u0665 :x\necho\n".toList ∧
      (WriteMode.merge ≠ .skip ∧ (∃ c ∈ "echo\n".toList, ¬ Text.isBlankChar c) ∧
        ¬ Directive.marker <:+: "echo\n".toList ∧
        ("644".toList.length = 3 ∨ "644".toList.length = 4) ∧
        (∀ c ∈ "644".toList, '0' ≤ c ∧ c ≤ '7') ∧
        ∃ bits : Nat, bits ≤ 0o7777 ∧ Text.octal? "644" = some (bits : Int) ∧
          permissionBits "644" = .ok bits) := by
  have hmem : (⟨"run.sh", "echo\n", .merge, "644"⟩ : GeneratedFile) ∈
      splitFiles "index" "#FILENAME: run.sh : merge : \u0667\u0665\u0665 :x\necho\n".toList := by
    decide
  exact ⟨hmem, valid_of_mem_splitFiles hmem⟩

end Stencil
