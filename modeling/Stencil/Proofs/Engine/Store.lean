import Mathlib.Data.List.Nodup
import Mathlib.Data.List.Perm.Subperm
import Mathlib.Logic.Function.Basic
import Stencil.Engine.Store
import Stencil.Proofs.Value.Renaming

namespace Stencil

def Cell.rename (ρ : Nat → Nat) : Cell → Cell
  | list vs => list (vs.map (Value.rename ρ))
  | dict es => dict (es.map (Value.renameAt ρ))

@[simp] theorem Cell.value_rename (ρ : Nat → Nat) (c : Cell) :
    (c.rename ρ).value = c.value.rename ρ := by
  cases c <;> simp [Cell.rename, Cell.value]

namespace Store

/-- The first store stands inside the second one under other names, new cells get the names that
follow, and the rest of the second one is given. -/
structure Embeds (ρ : Nat → Nat) (rest : Nat → Option Cell) (s s' : Store) : Prop where
  injective : Function.Injective ρ
  cells : ∀ c, s'.cells[ρ c]? = s.cells[c]?.map (Cell.rename ρ)
  fresh : ∀ k, ρ (s.cells.size + k) = s'.cells.size + k
  outside : ∀ c, (∀ k, ρ k ≠ c) → s'.cells[c]? = rest c

variable {ρ : Nat → Nat} {rest : Nat → Option Cell} {s s' : Store}

namespace Embeds

theorem look (h : s.Embeds ρ rest s') (v : Value) : s'.look (v.rename ρ) = (s.look v).rename ρ := by
  cases v with
  | ref c =>
    rw [Value.rename, Store.look, Store.look, h.cells]
    cases s.cells[c]? <;> simp
  | _ => simp [Store.look]

theorem add (h : s.Embeds ρ rest s') (c : Cell) :
    (s'.add (c.rename ρ)).1 = (s.add c).1.rename ρ ∧
      (s.add c).2.Embeds ρ rest (s'.add (c.rename ρ)).2 := by
  have hsize : ρ s.cells.size = s'.cells.size := h.fresh 0
  refine ⟨by simp [Store.add, hsize], h.injective, fun k => ?_, fun k => ?_, fun k hk => ?_⟩
  · simp only [Store.add, Array.getElem?_push]
    by_cases hks : k = s.cells.size
    · rw [if_pos (hks ▸ hsize), if_pos hks, Option.map_some]
    · rw [if_neg fun heq => hks (h.injective (heq.trans hsize.symm)), if_neg hks, h.cells]
  · have hnext := h.fresh (k + 1)
    simp only [Store.add, Array.size_push]
    rw [show s.cells.size + 1 + k = s.cells.size + (k + 1) by omega, hnext]
    omega
  · have hkn : k ≠ s'.cells.size := fun heq => hk _ (hsize.trans heq.symm)
    simp only [Store.add, Array.getElem?_push, if_neg hkn]
    exact h.outside k hk

mutual

theorem share {s s' : Store} (h : s.Embeds ρ rest s') : (v : Value) →
    (Store.share (v.rename ρ) s').1 = (Store.share v s).1.rename ρ ∧
      (Store.share v s).2.Embeds ρ rest (Store.share (v.rename ρ) s').2
  | .list vs => by
    obtain ⟨heq, hs⟩ := shareItems h vs
    rw [Value.rename, Store.share, Store.share]
    simp only [heq]
    exact hs.add (.list _)
  | .dict es => by
    obtain ⟨heq, hs⟩ := shareEntries h es
    rw [Value.rename, Store.share, Store.share]
    simp only [heq]
    exact hs.add (.dict _)
  | .tuple vs => by
    obtain ⟨heq, hs⟩ := shareItems h vs
    rw [Value.rename, Store.share, Store.share]
    simp only [heq]
    exact ⟨by simp, hs⟩
  | .view vs => by
    obtain ⟨heq, hs⟩ := shareItems h vs
    rw [Value.rename, Store.share, Store.share]
    simp only [heq]
    exact ⟨by simp, hs⟩
  | .object es => by
    obtain ⟨heq, hs⟩ := shareEntries h es
    rw [Value.rename, Store.share, Store.share]
    simp only [heq]
    exact ⟨by simp, hs⟩
  | .null | .undefined | .bool _ | .int _ | .float _ | .text _ | .markup _ | .ref _ | .function _
  | .method _ _ => ⟨rfl, h⟩

theorem shareItems {s s' : Store} (h : s.Embeds ρ rest s') : (vs : List Value) →
    (Store.shareItems (Value.renameItems ρ vs) s').1 =
        (Store.shareItems vs s).1.map (Value.rename ρ) ∧
      (Store.shareItems vs s).2.Embeds ρ rest (Store.shareItems (Value.renameItems ρ vs) s').2
  | [] => ⟨rfl, h⟩
  | v :: vs => by
    obtain ⟨heq, hs⟩ := share h v
    obtain ⟨heqs, hss⟩ := shareItems hs vs
    rw [Value.renameItems, Store.shareItems, Store.shareItems]
    simp only [heq, heqs]
    exact ⟨rfl, hss⟩

theorem shareEntries {s s' : Store} (h : s.Embeds ρ rest s') : (es : List (Key × Value)) →
    (Store.shareEntries (Value.renameEntries ρ es) s').1 =
        (Store.shareEntries es s).1.map (Value.renameAt ρ) ∧
      (Store.shareEntries es s).2.Embeds ρ rest (Store.shareEntries (Value.renameEntries ρ es) s').2
  | [] => ⟨rfl, h⟩
  | (k, v) :: es => by
    obtain ⟨heq, hs⟩ := share h v
    obtain ⟨heqs, hss⟩ := shareEntries hs es
    rw [Value.renameEntries, Store.shareEntries, Store.shareEntries]
    simp only [heq, heqs]
    exact ⟨rfl, hss⟩

end

theorem lt_size_iff (h : s.Embeds ρ rest s') (c : Nat) :
    ρ c < s'.cells.size ↔ c < s.cells.size := by
  rw [← Nat.not_le, ← Nat.not_le, ← Array.getElem?_eq_none_iff, ← Array.getElem?_eq_none_iff,
    h.cells, Option.map_eq_none_iff]

theorem size_le (h : s.Embeds ρ rest s') : s.cells.size ≤ s'.cells.size := by
  have hnodup : ((List.range s.cells.size).map ρ).Nodup := List.nodup_range.map h.injective
  have hsub : (List.range s.cells.size).map ρ ⊆ List.range s'.cells.size := by
    intro c hc
    obtain ⟨k, hk, rfl⟩ := List.mem_map.mp hc
    exact List.mem_range.mpr ((h.lt_size_iff k).mpr (List.mem_range.mp hk))
  simpa using (List.subperm_of_subset hnodup hsub).length_le

theorem write (h : s.Embeds ρ rest s') (c : Nat) (cell : Cell) :
    (s.write c cell).Embeds ρ rest (s'.write (ρ c) (cell.rename ρ)) := by
  refine ⟨h.injective, fun k => ?_, fun k => ?_, fun k hk => ?_⟩
  · simp only [Store.write, Array.getElem?_setIfInBounds, h.injective.eq_iff, h.lt_size_iff]
    split
    next => split <;> rfl
    next => exact h.cells k
  · simp only [Store.write, Array.size_setIfInBounds]
    exact h.fresh k
  · simp only [Store.write, Array.getElem?_setIfInBounds, if_neg (hk c)]
    exact h.outside k hk

end Embeds

/-- The path names cells of the store, each of them once. -/
def IsPath (s : Store) (path : List Nat) : Prop :=
  path.Nodup ∧ ∀ c ∈ path, c < s.cells.size

theorem IsPath.cons {path : List Nat} {c : Nat} (h : s.IsPath path) (hc : c ∉ path)
    (hlt : c < s.cells.size) : s.IsPath (c :: path) :=
  ⟨List.nodup_cons.mpr ⟨hc, h.1⟩, by simpa using ⟨hlt, h.2⟩⟩

/-- A path that is as long as there are cells names all of them. -/
theorem IsPath.mem_of_length_le {path : List Nat} {c : Nat} (h : s.IsPath path)
    (hlen : s.cells.size ≤ path.length) (hlt : c < s.cells.size) : c ∈ path := by
  by_contra hc
  have hsub : (c :: path) ⊆ List.range s.cells.size := by
    intro k hk
    exact List.mem_range.mpr ((h.cons hc hlt).2 k hk)
  have hle := (List.subperm_of_subset (h.cons hc hlt).1 hsub).length_le
  rw [List.length_cons, List.length_range] at hle
  omega

mutual

theorem fill_rename {follow follow' : Nat → Value} (hf : ∀ c, follow' (ρ c) = (follow c).rename ρ) :
    (v : Value) → fill follow' (v.rename ρ) = (fill follow v).rename ρ
  | .ref c => hf c
  | .list vs => congrArg Value.list (fillItems_rename hf vs)
  | .tuple vs => congrArg Value.tuple (fillItems_rename hf vs)
  | .view vs => congrArg Value.view (fillItems_rename hf vs)
  | .dict es => congrArg Value.dict (fillEntries_rename hf es)
  | .object es => congrArg Value.object (fillEntries_rename hf es)
  | .null | .undefined | .bool _ | .int _ | .float _ | .text _ | .markup _ | .function _
  | .method _ _ => rfl

theorem fillItems_rename {follow follow' : Nat → Value}
    (hf : ∀ c, follow' (ρ c) = (follow c).rename ρ) : (vs : List Value) →
    fillItems follow' (Value.renameItems ρ vs) = Value.renameItems ρ (fillItems follow vs)
  | [] => rfl
  | v :: vs => by
    rw [Value.renameItems, fillItems, fillItems, Value.renameItems, fill_rename hf v,
      fillItems_rename hf vs]

theorem fillEntries_rename {follow follow' : Nat → Value}
    (hf : ∀ c, follow' (ρ c) = (follow c).rename ρ) : (es : List (Key × Value)) →
    fillEntries follow' (Value.renameEntries ρ es) = Value.renameEntries ρ (fillEntries follow es)
  | [] => rfl
  | (k, v) :: es => by
    rw [Value.renameEntries, fillEntries, fillEntries, Value.renameEntries, fill_rename hf v,
      fillEntries_rename hf es]

end

namespace Embeds

theorem contains_map (h : s.Embeds ρ rest s') (path : List Nat) (c : Nat) :
    (path.map ρ).contains (ρ c) = path.contains c := by
  simp [h.injective.eq_iff]

/-- The bound on the way through the store does not show, as it allows for every cell. -/
theorem contents (h : s.Embeds ρ rest s') {n n' : Nat} {path : List Nat} (hpath : s.IsPath path)
    (hn : s.cells.size ≤ n + path.length) (hn' : n ≤ n') (c : Nat) :
    s'.contents n' (path.map ρ) (ρ c) = (s.contents n path c).rename ρ := by
  induction n generalizing n' path c with
  | zero =>
    -- The path has as many cells as there are, so the next one is on it, or is none.
    have hstay : path.contains c = true ∨ s.cells[c]? = none := by
      rcases Nat.lt_or_ge c s.cells.size with hc | hc
      · exact Or.inl (by simpa using hpath.mem_of_length_le (by omega) hc)
      · exact Or.inr (Array.getElem?_eq_none hc)
    cases n' with
    | zero => rfl
    | succ n' =>
      rw [Store.contents, Store.contents, h.contains_map, h.cells]
      rcases hstay with hc | hc
      · rw [if_pos hc]; rfl
      · rw [hc]; split <;> rfl
  | succ n ih =>
    obtain ⟨n', rfl⟩ := Nat.exists_eq_add_of_le' hn'
    rw [← Nat.add_assoc, Store.contents, Store.contents, h.contains_map, h.cells]
    split
    next => rfl
    next hc =>
      cases hcell : s.cells[c]? with
      | none => rfl
      | some cell =>
        have hlt : c < s.cells.size := (Array.getElem?_eq_some_iff.mp hcell).1
        simp only [Option.map_some, Cell.value_rename]
        refine fill_rename (fun k => ?_) cell.value
        exact ih (hpath.cons (by simpa using hc) hlt) (by rw [List.length_cons]; omega) (by omega) k

theorem resolve (h : s.Embeds ρ rest s') (v : Value) :
    s'.resolve (v.rename ρ) = (s.resolve v).rename ρ := by
  refine fill_rename (fun c => ?_) v
  exact h.contents ⟨List.nodup_nil, by simp⟩ (by simp) h.size_le c

end Embeds

end Store

end Stencil
