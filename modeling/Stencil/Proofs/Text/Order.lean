import Mathlib.Data.Char
import Mathlib.Data.List.Lex
import Mathlib.Data.List.Sort
import Stencil.Text.Order

namespace Stencil.Text

theorem sorted_eq_insertionSort (ts : List Text) : sorted ts = ts.insertionSort (· ≤ ·) := by
  induction ts with
  | nil => rfl
  | cons t ts ih =>
    rw [List.insertionSort_cons, List.orderedInsert_eq_take_drop, ← ih]
    simp [sorted]

theorem sorted_perm (ts : List Text) : (sorted ts).Perm ts := by
  rw [sorted_eq_insertionSort]
  exact ts.perm_insertionSort _

/-- Different texts are sorted strictly. -/
theorem pairwise_lt_sorted {ts : List Text} (h : (sorted ts).Nodup) :
    (sorted ts).Pairwise (· < ·) := by
  have hle : (sorted ts).Pairwise (· ≤ ·) := by
    rw [sorted_eq_insertionSort]
    exact ts.pairwise_insertionSort _
  exact (h.and hle).imp fun ⟨hne, hst⟩ => lt_of_le_of_ne hst hne

end Stencil.Text
