import Mathlib.Logic.Function.Basic
import Stencil.Proofs.Engine.Mirror

namespace Stencil

namespace Value

mutual

/-- The cells that a value refers to. -/
def refs : Value → List Nat
  | ref c => [c]
  | list vs => refsOfItems vs
  | tuple vs => refsOfItems vs
  | view vs => refsOfItems vs
  | dict es => refsOfEntries es
  | object es => refsOfEntries es
  | method v _ => refs v
  | _ => []

def refsOfItems : List Value → List Nat
  | [] => []
  | v :: vs => refs v ++ refsOfItems vs

def refsOfEntries : List (Key × Value) → List Nat
  | [] => []
  | (_, v) :: es => refs v ++ refsOfEntries es

end

section

variable {ρ σ : Nat → Nat}

mutual

/-- Names are given back by a renaming that undoes the first one for the cells of a value. -/
theorem rename_rename_cancel : (v : Value) → (∀ c ∈ v.refs, ρ (σ c) = c) →
    (v.rename σ).rename ρ = v
  | .ref c, h => congrArg ref (h c (by simp [refs]))
  | .list vs, h => congrArg list (renameItems_renameItems_cancel vs h)
  | .tuple vs, h => congrArg tuple (renameItems_renameItems_cancel vs h)
  | .view vs, h => congrArg view (renameItems_renameItems_cancel vs h)
  | .dict es, h => congrArg dict (renameEntries_renameEntries_cancel es h)
  | .object es, h => congrArg object (renameEntries_renameEntries_cancel es h)
  | .method v f, h => congrArg (method · f) (rename_rename_cancel v h)
  | .null, _ | .undefined, _ | .bool _, _ | .int _, _ | .float _, _ | .text _, _ | .markup _, _
  | .function _, _ => rfl

theorem renameItems_renameItems_cancel : (vs : List Value) → (∀ c ∈ refsOfItems vs, ρ (σ c) = c) →
    renameItems ρ (renameItems σ vs) = vs
  | [], _ => rfl
  | v :: vs, h => by
    rw [refsOfItems, List.forall_mem_append] at h
    rw [renameItems, renameItems, rename_rename_cancel v h.1, renameItems_renameItems_cancel vs h.2]

theorem renameEntries_renameEntries_cancel : (es : List (Key × Value)) →
    (∀ c ∈ refsOfEntries es, ρ (σ c) = c) → renameEntries ρ (renameEntries σ es) = es
  | [], _ => rfl
  | (k, v) :: es, h => by
    rw [refsOfEntries, List.forall_mem_append] at h
    rw [renameEntries, renameEntries, rename_rename_cancel v h.1,
      renameEntries_renameEntries_cancel es h.2]

end

end

end Value

theorem Cell.rename_rename_cancel {ρ σ : Nat → Nat} (c : Cell)
    (h : ∀ k ∈ c.value.refs, ρ (σ k) = k) : (c.rename σ).rename ρ = c := by
  cases c with
  | list vs =>
    have hvs := Value.renameItems_renameItems_cancel vs h
    rw [Value.renameItems_eq_map, Value.renameItems_eq_map] at hvs
    exact congrArg list hvs
  | dict es =>
    have hes := Value.renameEntries_renameEntries_cancel es h
    rw [Value.renameEntries_eq_map, Value.renameEntries_eq_map] at hes
    exact congrArg dict hes

theorem Value.rename_injective {ρ : Nat → Nat} (inj : Function.Injective ρ) :
    Function.Injective (Value.rename ρ) :=
  Function.LeftInverse.injective (g := Value.rename (Function.invFun ρ)) fun v =>
    v.rename_rename_cancel fun c _ => Function.leftInverse_invFun inj c

theorem Cell.rename_injective {ρ : Nat → Nat} (inj : Function.Injective ρ) :
    Function.Injective (Cell.rename ρ) :=
  Function.LeftInverse.injective (g := Cell.rename (Function.invFun ρ)) fun c =>
    c.rename_rename_cancel fun k _ => Function.leftInverse_invFun inj k

namespace Store

/-- The cells of a part are there, and refer to nothing outside of it. -/
structure IsClosed (s : Store) (part : List Nat) : Prop where
  isPath : s.IsPath part
  inside : ∀ c ∈ part, ∀ cell ∈ s.cells[c]?, cell.value.refs ⊆ part

variable {s s' : Store} {part : List Nat}

mutual

theorem refs_fill_subset {follow : Nat → Value} : (v : Value) → v.refs ⊆ part →
    (∀ c ∈ v.refs, (follow c).refs ⊆ part) → (fill follow v).refs ⊆ part
  | .ref c, _, hf => hf c (by simp [Value.refs])
  | .list vs, h, hf | .tuple vs, h, hf | .view vs, h, hf => refsOfItems_fillItems_subset vs h hf
  | .dict es, h, hf | .object es, h, hf => refsOfEntries_fillEntries_subset es h hf
  | .method _ _, h, _ => h
  | .null, _, _ | .undefined, _, _ | .bool _, _, _ | .int _, _, _ | .float _, _, _ | .text _, _, _
  | .markup _, _, _ | .function _, _, _ => List.nil_subset _

theorem refsOfItems_fillItems_subset {follow : Nat → Value} : (vs : List Value) →
    Value.refsOfItems vs ⊆ part → (∀ c ∈ Value.refsOfItems vs, (follow c).refs ⊆ part) →
    Value.refsOfItems (fillItems follow vs) ⊆ part
  | [], _, _ => List.nil_subset _
  | v :: vs, h, hf => by
    rw [Value.refsOfItems, List.append_subset] at h
    rw [Value.refsOfItems, List.forall_mem_append] at hf
    exact List.append_subset.mpr
      ⟨refs_fill_subset v h.1 hf.1, refsOfItems_fillItems_subset vs h.2 hf.2⟩

theorem refsOfEntries_fillEntries_subset {follow : Nat → Value} : (es : List (Key × Value)) →
    Value.refsOfEntries es ⊆ part → (∀ c ∈ Value.refsOfEntries es, (follow c).refs ⊆ part) →
    Value.refsOfEntries (fillEntries follow es) ⊆ part
  | [], _, _ => List.nil_subset _
  | (_, v) :: es, h, hf => by
    rw [Value.refsOfEntries, List.append_subset] at h
    rw [Value.refsOfEntries, List.forall_mem_append] at hf
    exact List.append_subset.mpr
      ⟨refs_fill_subset v h.1 hf.1, refsOfEntries_fillEntries_subset es h.2 hf.2⟩

end

theorem IsClosed.refs_contents_subset (closed : s.IsClosed part) (n : Nat) (path : List Nat)
    {c : Nat} (hc : c ∈ part) : (s.contents n path c).refs ⊆ part := by
  have hself : (Value.ref c).refs ⊆ part := by simpa [Value.refs] using hc
  induction n generalizing path c with
  | zero => exact hself
  | succ n ih =>
    rw [contents]
    split
    next => exact hself
    next =>
      cases hcell : s.cells[c]? with
      | none => exact hself
      | some cell =>
        have hinside := closed.inside c hc cell hcell
        exact refs_fill_subset cell.value hinside fun k hk =>
          ih (c :: path) (hinside hk) (by simpa [Value.refs] using hinside hk)

theorem IsClosed.refs_resolve_subset (closed : s.IsClosed part) {v : Value} (hv : v.refs ⊆ part) :
    (s.resolve v).refs ⊆ part :=
  refs_fill_subset v hv fun _ hc => closed.refs_contents_subset _ _ (hv hc)

/-- The cells of a part, with the numbers that they have in the part. -/
def extract (s : Store) (part : List Nat) : Store :=
  ⟨(part.map fun c => ((s.cells[c]?).getD (.list [])).rename part.idxOf).toArray⟩

/-- Where the cells of a part are in a store with a number of cells, and those that come after them
behind this store. -/
def place (part : List Nat) (size : Nat) (i : Nat) : Nat :=
  (part[i]?).getD (size + (i - part.length))

theorem place_idxOf {c : Nat} (size : Nat) (hc : c ∈ part) : place part size (part.idxOf c) = c := by
  rw [place, List.getElem?_idxOf hc, Option.getD_some]

theorem place_of_length_le {size i : Nat} (h : part.length ≤ i) :
    place part size i = size + (i - part.length) := by
  rw [place, List.getElem?_eq_none h, Option.getD_none]

theorem place_of_lt {size i : Nat} (h : i < part.length) : place part size i = part[i] := by
  rw [place, List.getElem?_eq_getElem h, Option.getD_some]

theorem IsPath.place_injective (hpath : s.IsPath part) :
    Function.Injective (place part s.cells.size) := by
  intro i j h
  rcases Nat.lt_or_ge i part.length with hi | hi <;> rcases Nat.lt_or_ge j part.length with hj | hj
  · rw [place_of_lt hi, place_of_lt hj] at h
    exact (hpath.1.getElem_inj_iff).mp h
  · have hlt := hpath.2 part[i] (List.getElem_mem hi)
    rw [place_of_lt hi, place_of_length_le hj] at h
    omega
  · have hlt := hpath.2 part[j] (List.getElem_mem hj)
    rw [place_of_length_le hi, place_of_lt hj] at h
    omega
  · rw [place_of_length_le hi, place_of_length_le hj] at h
    omega

theorem place_ne {c size : Nat} (hc : c ∉ part) (hlt : c < size) (i : Nat) :
    place part size i ≠ c := by
  rcases Nat.lt_or_ge i part.length with hi | hi
  · rw [place_of_lt hi]
    exact fun heq => hc (heq ▸ List.getElem_mem hi)
  · rw [place_of_length_le hi]
    omega

/-- Two stores have the same cells in a part. -/
def Agrees (part : List Nat) (s s' : Store) : Prop :=
  ∀ c ∈ part, s'.cells[c]? = s.cells[c]?

theorem IsClosed.of_agrees (closed : s.IsClosed part) (h : Agrees part s s') :
    s'.IsClosed part where
  isPath := by
    refine ⟨closed.isPath.1, fun c hc => ?_⟩
    have hcell := (h c hc).trans (Array.getElem?_eq_getElem (closed.isPath.2 c hc))
    exact (Array.getElem?_eq_some_iff.mp hcell).1
  inside c hc := by
    rw [h c hc]
    exact closed.inside c hc

/-- A part stands in every store that has the same cells there. -/
theorem IsClosed.embeds_extract (closed : s.IsClosed part) (h : Agrees part s s') :
    (s.extract part).Embeds (place part s'.cells.size) (s'.cells[·]?) s' where
  injective := (closed.of_agrees h).isPath.place_injective
  cells i := by
    rcases Nat.lt_or_ge i part.length with hi | hi
    · have hmem := List.getElem_mem hi
      have hlt := closed.isPath.2 part[i] hmem
      have hcell : s.cells[part[i]]? = some s.cells[part[i]] := Array.getElem?_eq_getElem hlt
      have hback := s.cells[part[i]].rename_rename_cancel fun k hk =>
        place_idxOf s'.cells.size (closed.inside _ hmem _ hcell hk)
      rw [place_of_lt hi, h _ hmem, hcell]
      simp [extract, hi, hcell, hback]
    · rw [place_of_length_le hi, Array.getElem?_eq_none (by omega)]
      simp [extract, hi]
  fresh k := by
    rw [place_of_length_le (by simp [extract])]
    simp [extract]
  outside _ _ := rfl

/-- What a value stands for hangs on the part that it refers to. -/
theorem IsClosed.resolve_eq (closed : s.IsClosed part) (h : Agrees part s s') {v : Value}
    (hv : v.refs ⊆ part) : s'.resolve v = s.resolve v := by
  have hback {w : Value} (size : Nat) (hw : w.refs ⊆ part) :
      (w.rename part.idxOf).rename (place part size) = w :=
    w.rename_rename_cancel fun c hc => place_idxOf size (hw hc)
  have hself : Agrees part s s := fun _ _ => rfl
  have hs := (closed.embeds_extract hself).resolve (v.rename part.idxOf)
  have hs' := (closed.embeds_extract h).resolve (v.rename part.idxOf)
  rw [hback _ hv] at hs hs'
  have hresult : (s.extract part).resolve (v.rename part.idxOf) =
      (s.resolve v).rename part.idxOf := by
    refine Value.rename_injective closed.isPath.place_injective ?_
    rw [hback _ (closed.refs_resolve_subset hv), hs]
  rw [hs', hresult, hback _ (closed.refs_resolve_subset hv)]

end Store

/-- Two sessions have the same cells in a part, and are inside the same switches. -/
structure Session.Agrees (part : List Nat) (s s' : Session) : Prop where
  store : s.store.Agrees part s'.store
  switches : s'.switches = s.switches

namespace Act

variable {α : Type} {part : List Nat} {a b : Act α} {s s' : Session}

/-- An action on a part answers the same in every session that has the part; it leaves the part as
it was if it does so in one of them, and touches no other cell. -/
theorem run_eq_of_mirrors (closed : s.store.IsClosed part)
    (h : ∀ size, Function.Injective (Store.place part size) →
      Mirrors (Store.place part size) id a b) (hs : s.Agrees part s') :
    (b.run s').1 = (b.run s).1 ∧ (b.run s').2.switches = s.switches ∧
      (s.store.Agrees part (b.run s).2.store → s'.store.Agrees part (b.run s').2.store) ∧
      ∀ c < s'.store.cells.size, c ∉ part →
        (b.run s').2.store.cells[c]? = s'.store.cells[c]? := by
  have he : Session.Embeds (Store.place part s.store.cells.size) (s.store.cells[·]?) s.switches
      { store := s.store.extract part, switches := s.switches } s :=
    ⟨closed.embeds_extract fun _ _ => rfl, rfl, rfl⟩
  have he' : Session.Embeds (Store.place part s'.store.cells.size) (s'.store.cells[·]?) s.switches
      { store := s.store.extract part, switches := s.switches } s' :=
    ⟨closed.embeds_extract hs.store, rfl, hs.switches⟩
  obtain ⟨heq, hend⟩ := h _ he.store.injective _ _ _ _ he
  obtain ⟨heq', hend'⟩ := h _ he'.store.injective _ _ _ _ he'
  refine ⟨heq'.trans heq.symm, hend'.inside', fun hkept c hc => ?_, fun c hlt hc => ?_⟩
  · -- The cell is kept in the extract, as it is in the first session.
    have hcell := hkept c hc
    rw [← Store.place_idxOf s.store.cells.size hc, hend.store.cells, he.store.cells] at hcell
    have hinner := Option.map_injective (Cell.rename_injective he.store.injective) hcell
    rw [← Store.place_idxOf s'.store.cells.size hc, hend'.store.cells, he'.store.cells, hinner]
  · exact hend'.store.outside c (Store.place_ne hc hlt)

end Act

end Stencil
