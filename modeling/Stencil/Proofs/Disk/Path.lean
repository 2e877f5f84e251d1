import Stencil.Disk.Path
import Stencil.Proofs.Text.Lines

namespace Stencil.Path

variable {t : Text} {p : Path}

/-- A component that counts, and does not lead up. -/
structure IsPlain (part : Text) : Prop where
  ne_nil : part ≠ []
  ne_dot : part ≠ ['.']
  ne_dots : part ≠ ['.', '.']

instance (part : Text) : Decidable (IsPlain part) :=
  decidable_of_iff (part ≠ [] ∧ part ≠ ['.'] ∧ part ≠ ['.', '.'])
    ⟨fun ⟨h₁, h₂, h₃⟩ => ⟨h₁, h₂, h₃⟩, fun ⟨h₁, h₂, h₃⟩ => ⟨h₁, h₂, h₃⟩⟩

theorem notMem_of_mem_splitOn {c : Char} {t part : Text} (h : part ∈ t.splitOn c) : c ∉ part := by
  rw [List.splitOn_eq_splitOnP] at h
  intro hc
  simpa using Text.eq_false_of_mem_splitOnP h hc

theorem splitOn_injective {s t : Text} (c : Char) (h : s.splitOn c = t.splitOn c) : s = t := by
  have hs : List.intercalate [c] (s.splitOn c) = s := List.intercalate_splitOn c
  rw [← hs, h, List.intercalate_splitOn]

theorem rootOf_of_plain (h : ∀ part ∈ t.splitOn '/', IsPlain part) : rootOf t = [] := by
  have hlead : t.takeWhile (· = '/') = [] := by
    cases t with
    | nil => rfl
    | cons c t =>
      have hc : c ≠ '/' := by
        rintro rfl
        exact (h [] (by simp [List.splitOn_cons_eq_if_modifyHead])).ne_nil rfl
      simp [hc]
  rw [rootOf, hlead]
  rfl

theorem parse_of_plain (h : ∀ part ∈ t.splitOn '/', IsPlain part) :
    parse t = ⟨[], t.splitOn '/'⟩ := by
  have hparts : partsOf t = t.splitOn '/' := by
    refine List.filter_eq_self.mpr fun part hmem => ?_
    simp [(h part hmem).ne_nil, (h part hmem).ne_dot]
  rw [parse, rootOf_of_plain h, hparts]

theorem child_of_plain (h : ∀ part ∈ t.splitOn '/', IsPlain part) :
    p.child t = { p with parts := p.parts ++ t.splitOn '/' } := by
  rw [child, parse_of_plain h]
  rfl

end Stencil.Path
