import Mathlib.Data.List.Induction
import Mathlib.Data.List.Infix
import Stencil.Disk.Basic
import Stencil.Proofs.Disk.Path

namespace Stencil.Disk

/-- What an entry of a directory can be called. -/
structure IsName (t : Text) : Prop extends Path.IsPlain t where
  slash_notMem : '/' ∉ t
  null_notMem : '\x00' ∉ t
  length_le : (Text.encode t).length ≤ maxNameBytes

instance (t : Text) : Decidable (IsName t) :=
  decidable_of_iff
    (Path.IsPlain t ∧ '/' ∉ t ∧ '\x00' ∉ t ∧ (Text.encode t).length ≤ maxNameBytes)
    ⟨fun ⟨h₁, h₂, h₃, h₄⟩ => ⟨h₁, h₂, h₃, h₄⟩, fun ⟨h₁, h₂, h₃, h₄⟩ => ⟨h₁, h₂, h₃, h₄⟩⟩

/-- Every location is used once, consists of names and lies in a directory. -/
structure IsTree (d : Disk) : Prop where
  nodup : (d.nodes.map Prod.fst).Nodup
  isName : ∀ l ∈ d.nodes.map Prod.fst, ∀ name ∈ l, IsName name
  parent : ∀ l n, d.node? l = some n → d.isDirectoryAt l.dropLast = true

/-- Whatever stands above a location is a directory. -/
def OpenAbove (d : Disk) (m : Location) : Prop :=
  ∀ l, l <+: m → l ≠ m → ∀ n, d.node? l = some n → n = .directory

variable {d : Disk} {l m : Location}

theorem prefix_dropLast_of_ne (h : l <+: m) (hne : l ≠ m) : l <+: m.dropLast := by
  obtain ⟨rest, rfl⟩ := h
  have hrest : rest ≠ [] := by
    rintro rfl
    simp at hne
  rw [List.dropLast_append_of_ne_nil hrest]
  exact List.prefix_append _ _

theorem not_prefix_dropLast (hne : m ≠ []) : ¬ m <+: m.dropLast := by
  intro h
  have hlen := h.length_le
  have hpos := List.length_pos_iff.mpr hne
  rw [List.length_dropLast] at hlen
  omega

@[simp]
theorem node?_nil (d : Disk) : d.node? [] = some .directory := rfl

theorem ne_nil_of_not_directory (hm : d.node? m ≠ some .directory) : m ≠ [] := by
  rintro rfl
  exact hm rfl

theorem ne_nil_of_none (hm : d.node? m = none) : m ≠ [] := by
  rintro rfl
  simp at hm

theorem node?_of_ne_nil (d : Disk) (hl : l ≠ []) : d.node? l = d.nodes.lookup l := by
  cases l with
  | nil => exact absurd rfl hl
  | cons name l => rfl

@[simp]
theorem isDirectoryAt_iff : d.isDirectoryAt l = true ↔ d.node? l = some .directory := by
  simp [isDirectoryAt]

theorem current_put (d : Disk) (l : Location) (n : Node) : (d.put l n).current = d.current := by
  unfold put
  split <;> rfl

theorem lookup_cons_eq_if (k m : Location) (n : Node) (nodes : List (Location × Node)) :
    ((k, n) :: nodes).lookup m = if m = k then some n else nodes.lookup m := by
  by_cases h : m = k
  · simp [h]
  · have hb : (m == k) = false := beq_eq_false_iff_ne.mpr h
    simp [List.lookup_cons, hb, h]

theorem lookup_map_replace (nodes : List (Location × Node)) (l m : Location) (n : Node) :
    (nodes.map fun (k, old) => if k = l then (k, n) else (k, old)).lookup m =
      if m = l then (nodes.lookup m).map fun _ => n else nodes.lookup m := by
  induction nodes with
  | nil => simp
  | cons entry nodes ih =>
    obtain ⟨k, old⟩ := entry
    by_cases hk : k = l
    · simp only [List.map_cons, if_pos hk, lookup_cons_eq_if, ih]
      by_cases hm : m = l <;> simp [hm, hk]
    · simp only [List.map_cons, if_neg hk, lookup_cons_eq_if, ih]
      by_cases hm : m = k <;> simp [hm, hk]

/-- A node is put at one location and nowhere else. -/
theorem node?_put (d : Disk) (hl : l ≠ []) (n : Node) :
    (d.put l n).node? m = if m = l then some n else d.node? m := by
  by_cases hm : m = []
  · subst hm
    simp [Ne.symm hl]
  · rw [node?_of_ne_nil _ hm, node?_of_ne_nil _ hm, put]
    cases h : d.nodes.lookup l with
    | some old =>
      rw [Option.isSome_some, if_pos rfl, lookup_map_replace]
      by_cases hml : m = l <;> simp [hml, h]
    | none =>
      rw [Option.isSome_none, if_neg (by decide), List.lookup_append, lookup_cons_eq_if]
      by_cases hml : m = l <;> simp [hml, h]

theorem node?_put_self (d : Disk) (hl : l ≠ []) (n : Node) : (d.put l n).node? l = some n := by
  rw [node?_put d hl, if_pos rfl]

/-- What is put where no directory stands leaves the directories. -/
theorem directory_put (hm : d.node? m ≠ some .directory) (hl : d.node? l = some .directory)
    (n : Node) : (d.put m n).node? l = some .directory := by
  have hne : l ≠ m := by
    rintro rfl
    exact hm hl
  rw [node?_put d (ne_nil_of_not_directory hm), if_neg hne, hl]

theorem isSome_lookup_iff (nodes : List (Location × Node)) (l : Location) :
    (nodes.lookup l).isSome ↔ l ∈ nodes.map Prod.fst := by
  simp [List.lookup_isSome_iff]

theorem keys_put (d : Disk) (l : Location) (n : Node) :
    (d.put l n).nodes.map Prod.fst =
      if l ∈ d.nodes.map Prod.fst then d.nodes.map Prod.fst else d.nodes.map Prod.fst ++ [l] := by
  have hkeys : (d.nodes.map fun (k, old) => if k = l then (k, n) else (k, old)).map Prod.fst =
      d.nodes.map Prod.fst := by
    rw [List.map_map]
    apply List.map_congr_left
    rintro ⟨k, old⟩ _
    by_cases hk : k = l <;> simp [hk]
  by_cases h : l ∈ d.nodes.map Prod.fst
  · rw [put, if_pos ((isSome_lookup_iff d.nodes l).mpr h), if_pos h, hkeys]
  · rw [put, if_neg (mt (isSome_lookup_iff d.nodes l).mp h), if_neg h, List.map_append]
    rfl

theorem mem_keys_of_node? {n : Node} (hl : l ≠ []) (h : d.node? l = some n) :
    l ∈ d.nodes.map Prod.fst := by
  rw [node?_of_ne_nil d hl] at h
  exact (isSome_lookup_iff d.nodes l).mp (by simp [h])

theorem isTree_iff : d.IsTree ↔
    (d.nodes.map Prod.fst).Nodup ∧ (∀ l ∈ d.nodes.map Prod.fst, ∀ name ∈ l, IsName name) ∧
      ∀ l ∈ d.nodes.map Prod.fst, d.isDirectoryAt l.dropLast = true := by
  constructor
  · intro tree
    refine ⟨tree.nodup, tree.isName, fun l hl => ?_⟩
    cases l with
    | nil => rfl
    | cons name l =>
      obtain ⟨n, hn⟩ := Option.isSome_iff_exists.mp ((isSome_lookup_iff d.nodes _).mpr hl)
      exact tree.parent (name :: l) n hn
  · rintro ⟨hnodup, hnames, hparent⟩
    refine ⟨hnodup, hnames, fun l n hn => ?_⟩
    by_cases hl : l = []
    · subst hl
      rfl
    · exact hparent l (mem_keys_of_node? hl hn)

instance (d : Disk) : Decidable d.IsTree :=
  decidable_of_iff _ isTree_iff.symm

theorem openAbove_iff : d.OpenAbove m ↔
    ∀ l ∈ m.inits, l ≠ m → d.node? l = none ∨ d.node? l = some .directory := by
  constructor
  · intro h l hl hne
    cases hn : d.node? l with
    | none => exact Or.inl rfl
    | some n => exact Or.inr (by rw [h l ((List.mem_inits l m).mp hl) hne n hn])
  · intro h l hl hne n hn
    rcases h l ((List.mem_inits l m).mpr hl) hne with hnone | hdir
    · rw [hnone] at hn
      exact absurd hn (by simp)
    · exact Option.some.inj (hn.symm.trans hdir)

instance (d : Disk) (m : Location) : Decidable (d.OpenAbove m) :=
  decidable_of_iff _ openAbove_iff.symm

namespace IsTree

variable (tree : d.IsTree)
include tree

/-- Above everything that is there stand directories. -/
theorem node?_of_prefix {n : Node} (hm : d.node? m = some n) (hp : l <+: m) (hne : l ≠ m) :
    d.node? l = some .directory := by
  induction m using List.reverseRecOn generalizing n with
  | nil => exact absurd (List.prefix_nil.mp hp) hne
  | append_singleton m name ih =>
    have hparent : d.node? m = some .directory := by
      simpa using tree.parent _ _ hm
    rcases List.prefix_concat_iff.mp hp with rfl | hp
    · exact absurd rfl hne
    · by_cases heq : l = m
      · exact heq ▸ hparent
      · exact ih hparent hp heq

theorem directory_of_prefix (hm : d.node? m = some .directory) (hp : l <+: m) :
    d.node? l = some .directory := by
  by_cases h : l = m
  · exact h ▸ hm
  · exact tree.node?_of_prefix hm hp h

theorem openAbove {n : Node} (hm : d.node? m = some n) : d.OpenAbove m :=
  fun _ hl hne _ hk => Option.some.inj (hk.symm.trans (tree.node?_of_prefix hm hl hne))

theorem node?_eq_none_of_dropLast (h : ¬ d.isDirectoryAt m.dropLast = true) :
    d.node? m = none := by
  cases hm : d.node? m with
  | none => rfl
  | some n => exact absurd (tree.parent m n hm) h

/-- A tree stays one when a node is put into a directory and no directory gives way to a file. -/
theorem put (hl : l ≠ []) (hd : d.isDirectoryAt l.dropLast = true) (hname : IsName (l.getLast hl))
    {n : Node} (hkeep : d.node? l = some .directory → n = .directory) : (d.put l n).IsTree where
  nodup := by
    rw [keys_put]
    split
    next => exact tree.nodup
    next h => exact List.nodup_append.mpr ⟨tree.nodup, by simp, by grind⟩
  isName := by
    have hold : ∀ k, d.node? k = some .directory → ∀ name ∈ k, IsName name := by
      intro k hk name hmem
      exact tree.isName k (mem_keys_of_node? (List.ne_nil_of_mem hmem) hk) name hmem
    intro k hk name hmem
    rw [keys_put] at hk
    split at hk
    next => exact tree.isName k hk name hmem
    next =>
      rcases List.mem_append.mp hk with hk | hk
      · exact tree.isName k hk name hmem
      · rw [List.mem_singleton.mp hk, ← List.dropLast_append_getLast hl, List.mem_append,
          List.mem_singleton] at hmem
        rcases hmem with hmem | rfl
        · exact hold _ (isDirectoryAt_iff.mp hd) name hmem
        · exact hname
  parent := by
    intro k old hk
    rw [isDirectoryAt_iff] at hd ⊢
    rw [node?_put d hl] at hk ⊢
    by_cases hkl : k = l
    · subst hkl
      have hne : k.dropLast ≠ k := fun h => not_prefix_dropLast hl (by rw [h])
      rw [if_neg hne, hd]
    · rw [if_neg hkl] at hk
      have hparent := isDirectoryAt_iff.mp (tree.parent k old hk)
      split
      next h => rw [hkeep (h ▸ hparent)]
      next => exact hparent

end IsTree

end Stencil.Disk
