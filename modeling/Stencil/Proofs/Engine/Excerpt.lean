import Mathlib.Data.List.Perm.Subperm
import Stencil.Proofs.Engine.Extract

namespace Stencil

namespace Value

mutual

def hasMethod : Value → Bool
  | list vs => itemsHaveMethod vs
  | tuple vs => itemsHaveMethod vs
  | view vs => itemsHaveMethod vs
  | dict es => entriesHaveMethod es
  | object es => entriesHaveMethod es
  | method _ _ => true
  | _ => false

def itemsHaveMethod : List Value → Bool
  | [] => false
  | v :: vs => hasMethod v || itemsHaveMethod vs

def entriesHaveMethod : List (Key × Value) → Bool
  | [] => false
  | (_, v) :: es => hasMethod v || entriesHaveMethod es

end

mutual

theorem members_subset_refs : (v : Value) → v.members ⊆ v.refs
  | ref _ => List.Subset.refl _
  | list vs | tuple vs | view vs => membersOfItems_subset_refsOfItems vs
  | dict es | object es => membersOfEntries_subset_refsOfEntries es
  | null | undefined | bool _ | int _ | float _ | text _ | markup _ | function _
  | method _ _ => List.nil_subset _

theorem membersOfItems_subset_refsOfItems : (vs : List Value) → membersOfItems vs ⊆ refsOfItems vs
  | [] => List.nil_subset _
  | v :: vs => List.append_subset.mpr
    ⟨List.Subset.trans v.members_subset_refs (List.subset_append_left _ _),
      List.Subset.trans (membersOfItems_subset_refsOfItems vs) (List.subset_append_right _ _)⟩

theorem membersOfEntries_subset_refsOfEntries : (es : List (Key × Value)) →
    membersOfEntries es ⊆ refsOfEntries es
  | [] => List.nil_subset _
  | (_, v) :: es => List.append_subset.mpr
    ⟨List.Subset.trans v.members_subset_refs (List.subset_append_left _ _),
      List.Subset.trans (membersOfEntries_subset_refsOfEntries es) (List.subset_append_right _ _)⟩

end

end Value

namespace Store

section

variable {ρ : Nat → Nat} {follow : Nat → Value}

mutual

/-- What is put into the places of references can be renamed before. -/
theorem rename_fill : (v : Value) → v.hasMethod = false →
    (fill follow v).rename ρ = fill (fun c => (follow c).rename ρ) v
  | .ref _, _ => rfl
  | .list vs, h => congrArg Value.list (renameItems_fillItems vs h)
  | .tuple vs, h => congrArg Value.tuple (renameItems_fillItems vs h)
  | .view vs, h => congrArg Value.view (renameItems_fillItems vs h)
  | .dict es, h => congrArg Value.dict (renameEntries_fillEntries es h)
  | .object es, h => congrArg Value.object (renameEntries_fillEntries es h)
  | .null, _ | .undefined, _ | .bool _, _ | .int _, _ | .float _, _ | .text _, _ | .markup _, _
  | .function _, _ => rfl

theorem renameItems_fillItems : (vs : List Value) → Value.itemsHaveMethod vs = false →
    Value.renameItems ρ (fillItems follow vs) = fillItems (fun c => (follow c).rename ρ) vs
  | [], _ => rfl
  | v :: vs, h => by
    rw [Value.itemsHaveMethod, Bool.or_eq_false_iff] at h
    rw [fillItems, fillItems, Value.renameItems, rename_fill v h.1, renameItems_fillItems vs h.2]

theorem renameEntries_fillEntries : (es : List (Key × Value)) → Value.entriesHaveMethod es = false →
    Value.renameEntries ρ (fillEntries follow es) = fillEntries (fun c => (follow c).rename ρ) es
  | [], _ => rfl
  | (k, v) :: es, h => by
    rw [Value.entriesHaveMethod, Bool.or_eq_false_iff] at h
    rw [fillEntries, fillEntries, Value.renameEntries, rename_fill v h.1,
      renameEntries_fillEntries es h.2]

end

theorem rename_fill_cell (c : Cell) (h : c.value.hasMethod = false) :
    (c.fill follow).rename ρ = c.fill fun k => (follow k).rename ρ := by
  cases c with
  | list vs =>
    rw [Cell.fill, Cell.fill, Cell.rename, ← Value.renameItems_eq_map]
    exact congrArg Cell.list (renameItems_fillItems vs h)
  | dict es =>
    rw [Cell.fill, Cell.fill, Cell.rename, ← Value.renameEntries_eq_map]
    exact congrArg Cell.dict (renameEntries_fillEntries es h)

end

end Store

/-- Methods keep their receivers when a value is copied. There are none in an excerpt. -/
structure Excerpt.IsPlain (x : Excerpt) : Prop where
  value : x.value.hasMethod = false
  cells : ∀ c ∈ x.cells, c.value.hasMethod = false

namespace Store

section

variable {ρ : Nat → Nat} {rest : Nat → Option Cell} {s s' : Store}

theorem Embeds.append (h : s.Embeds ρ rest s') (cs : List Cell) :
    Embeds ρ rest ⟨s.cells ++ cs.toArray⟩ ⟨s'.cells ++ (cs.map (Cell.rename ρ)).toArray⟩ := by
  induction cs generalizing s s' with
  | nil => simpa using h
  | cons c cs ih =>
    have hpush (a : Array Cell) (c : Cell) (cs : List Cell) :
        a ++ (c :: cs).toArray = a.push c ++ cs.toArray := by
      simp
    rw [List.map_cons, hpush, hpush]
    exact ih (h.add c).2

theorem Embeds.paste (h : s.Embeds ρ rest s') {x : Excerpt} (plain : x.IsPlain) :
    (s'.paste x).1 = (s.paste x).1.rename ρ ∧ (s.paste x).2.Embeds ρ rest (s'.paste x).2 := by
  have hplace : (fun i => Value.ref (s'.cells.size + i)) =
      fun i => (Value.ref (s.cells.size + i)).rename ρ :=
    funext fun i => congrArg Value.ref (h.fresh i).symm
  have hcells : x.cells.map (Cell.fill fun i => .ref (s'.cells.size + i)) =
      (x.cells.map (Cell.fill fun i => .ref (s.cells.size + i))).map (Cell.rename ρ) := by
    rw [List.map_map, hplace]
    exact List.map_congr_left fun c hc => (rename_fill_cell c (plain.cells c hc)).symm
  rw [Store.paste, Store.paste, hcells, hplace, ← rename_fill x.value plain.value]
  exact (h.append _).share _

end

theorem mem_collect {c : Nat} {found cs : List Nat} : c ∈ collect found cs ↔ c ∈ found ∨ c ∈ cs := by
  induction cs generalizing found with
  | nil => simp [collect]
  | cons k cs ih =>
    rw [collect, List.foldl_cons, ← collect, ih, List.mem_insert_iff, List.mem_cons]
    tauto

theorem nodup_collect {found : List Nat} (h : found.Nodup) (cs : List Nat) :
    (collect found cs).Nodup := by
  induction cs generalizing found with
  | nil => exact h
  | cons k cs ih => exact ih (h.insert)

theorem length_le_length_collect (found cs : List Nat) : found.length ≤ (collect found cs).length := by
  induction cs generalizing found with
  | nil => exact Nat.le_refl _
  | cons k cs ih => exact Nat.le_trans List.length_le_length_insert (ih _)

theorem collect_eq_self {found cs : List Nat} (h : cs ⊆ found) : collect found cs = found := by
  induction cs with
  | nil => rfl
  | cons k cs ih =>
    obtain ⟨hk, hcs⟩ := List.cons_subset.mp h
    rw [collect, List.foldl_cons, List.insert_of_mem hk]
    exact ih hcs

theorem IsPath.length_le {s : Store} {path : List Nat} (h : s.IsPath path) :
    path.length ≤ s.cells.size := by
  have hsub : path ⊆ List.range s.cells.size := fun c hc => List.mem_range.mpr (h.2 c hc)
  simpa using (List.subperm_of_subset h.1 hsub).length_le

variable {s s' : Store} {part found : List Nat}

theorem IsClosed.membersAt_subset (closed : s.IsClosed part) {c : Nat} (hc : c ∈ part) :
    s.membersAt c ⊆ part := by
  rw [membersAt]
  cases hcell : s.cells[c]? with
  | none => exact List.nil_subset _
  | some cell => exact List.Subset.trans cell.value.members_subset_refs (closed.inside c hc cell hcell)

theorem IsClosed.collect_subset (closed : s.IsClosed part) (hfound : found ⊆ part) :
    collect found (found.flatMap s.membersAt) ⊆ part := by
  intro c hc
  rcases mem_collect.mp hc with hc | hc
  · exact hfound hc
  · obtain ⟨k, hk, hck⟩ := List.mem_flatMap.mp hc
    exact closed.membersAt_subset (hfound hk) hck

/-- Nothing is left to be found when as many cells have been found as there are in the part. -/
theorem IsClosed.reach_of_length_le (closed : s.IsClosed part) (hfound : found ⊆ part)
    (nodup : found.Nodup) (h : part.length ≤ found.length) (n : Nat) : s.reach n found = found := by
  have hpart : part ⊆ found :=
    ((List.subperm_of_subset nodup hfound).perm_of_length_le h).symm.subset
  have hmore : found.flatMap s.membersAt ⊆ found := by
    intro c hc
    obtain ⟨k, hk, hck⟩ := List.mem_flatMap.mp hc
    exact hpart (closed.membersAt_subset (hfound hk) hck)
  cases n with
  | zero => rfl
  | succ n => rw [reach, collect_eq_self hmore, if_pos rfl]

theorem IsClosed.reach_subset (closed : s.IsClosed part) (hfound : found ⊆ part) (n : Nat) :
    s.reach n found ⊆ part := by
  induction n generalizing found with
  | zero => exact hfound
  | succ n ih =>
    rw [reach]
    split
    next => exact hfound
    next => exact ih (closed.collect_subset hfound)

theorem Agrees.membersAt_eq (h : Agrees part s s') {c : Nat} (hc : c ∈ part) :
    s'.membersAt c = s.membersAt c := by
  rw [membersAt, membersAt, h c hc]

/-- What is reached inside a part hangs on the part only, once there are enough steps for it. -/
theorem IsClosed.reach_eq (closed : s.IsClosed part) (h : Agrees part s s') {n n' : Nat}
    (hfound : found ⊆ part) (nodup : found.Nodup) (hn : part.length ≤ found.length + n)
    (hn' : part.length ≤ found.length + n') : s'.reach n' found = s.reach n found := by
  induction n generalizing n' found with
  | zero =>
    have closed' := closed.of_agrees h
    rw [closed'.reach_of_length_le hfound nodup (by omega)]
    rfl
  | succ n ih =>
    cases n' with
    | zero => exact (closed.reach_of_length_le hfound nodup (by omega) _).symm
    | succ n' =>
      have hmembers : found.flatMap s'.membersAt = found.flatMap s.membersAt :=
        List.flatMap_congr fun c hc => h.membersAt_eq (hfound hc)
      rw [reach, reach, hmembers]
      split
      next => rfl
      next hne =>
        have hle := length_le_length_collect found (found.flatMap s.membersAt)
        exact ih (closed.collect_subset hfound) (nodup_collect nodup _) (by omega) (by omega)

theorem IsClosed.excerpt_eq (closed : s.IsClosed part) (h : Agrees part s s') {v : Value}
    (hv : v.refs ⊆ part) : s'.excerpt v = s.excerpt v := by
  have hstart : collect [] v.members ⊆ part := by
    intro c hc
    have hmem : c ∈ v.members := by simpa using mem_collect.mp hc
    exact hv (v.members_subset_refs hmem)
  have hreach : s'.reach s'.cells.size (collect [] v.members) =
      s.reach s.cells.size (collect [] v.members) := by
    refine closed.reach_eq h hstart (nodup_collect List.nodup_nil _) ?_ ?_
    · exact Nat.le_trans closed.isPath.length_le (Nat.le_add_left _ _)
    · exact Nat.le_trans (closed.of_agrees h).isPath.length_le (Nat.le_add_left _ _)
  rw [excerpt, excerpt, hreach]
  refine congrArg (Excerpt.mk _) (List.map_congr_left fun c hc => ?_)
  rw [h c (closed.reach_subset hstart _ hc)]

/-- A list that a mapping holds twice is held twice by the copy of the mapping as well. -/
example : paste ⟨#[.dict [(.text "a", .ref 1), (.text "b", .ref 1)], .list []]⟩
      (excerpt ⟨#[.dict [(.text "a", .ref 1), (.text "b", .ref 1)], .list []]⟩ (.ref 0)) =
    (.ref 3, ⟨#[.dict [(.text "a", .ref 1), (.text "b", .ref 1)], .list [], .list [],
      .dict [(.text "a", .ref 2), (.text "b", .ref 2)]]⟩) := rfl

end Store

namespace Act

theorem Mirrors.paste {ρ : Nat → Nat} {x : Excerpt} (plain : x.IsPlain) :
    Mirrors ρ (Value.rename ρ) (Act.paste x) (Act.paste x) := by
  intro rest around s s' he
  obtain ⟨heq, hs⟩ := he.store.paste plain
  exact ⟨congrArg Except.ok heq, hs, he.inside, he.inside'⟩

end Act

end Stencil
