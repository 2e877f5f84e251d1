import Mathlib.Data.List.Nodup
import Mathlib.Data.List.Perm.Subperm
import Stencil.Proofs.Disk.Tree
import Stencil.Proofs.Text.Order

namespace Stencil.Disk

variable {d : Disk} {l m : Location} {name : Text}

def nameIn? (l m : Location) : Option Text :=
  match m.getLast? with
  | some name => if m = l ++ [name] then some name else none
  | none => none

theorem nameIn?_eq_some_iff : nameIn? l m = some name ↔ m = l ++ [name] := by
  constructor
  · intro h
    unfold nameIn? at h
    split at h
    next last _ =>
      split at h
      next heq => rw [heq, Option.some.inj h]
      next => simp at h
    next => simp at h
  · rintro rfl
    simp [nameIn?]

theorem names_perm (d : Disk) (l : Location) :
    (d.names l).Perm ((d.nodes.map Prod.fst).filterMap (nameIn? l)) := by
  rw [List.filterMap_map]
  exact Text.sorted_perm _

theorem mem_names : name ∈ d.names l ↔ l ++ [name] ∈ d.nodes.map Prod.fst := by
  rw [(names_perm d l).mem_iff, List.mem_filterMap]
  simp only [nameIn?_eq_some_iff, exists_eq_right]

/-- A file stands at the second location, below the first. -/
def IsFileBelow (d : Disk) (l m : Location) : Prop :=
  l <+: m ∧ l ≠ m ∧ ∃ bytes mode, d.node? m = some (.file bytes mode)

theorem isSome_node?_iff (hl : l ≠ []) : (d.node? l).isSome ↔ l ∈ d.nodes.map Prod.fst := by
  rw [node?_of_ne_nil d hl, isSome_lookup_iff]

section

variable (tree : d.IsTree)
include tree

theorem IsTree.nodup_names (l : Location) : (d.names l).Nodup := by
  rw [(names_perm d l).nodup_iff]
  refine tree.nodup.filterMap fun k m name hk hm => ?_
  rw [nameIn?_eq_some_iff.mp hk, nameIn?_eq_some_iff.mp hm]

/-- The names in a directory come in the order of their code points. -/
theorem IsTree.pairwise_names (l : Location) : (d.names l).Pairwise (· < ·) :=
  Text.pairwise_lt_sorted (tree.nodup_names l)

/-- A walk that may go down far enough reaches the files below its start, and nothing else. -/
theorem IsTree.mem_walkFrom {n : Nat} :
    m ∈ d.walkFrom n l ↔ d.IsFileBelow l m ∧ m.length ≤ l.length + n := by
  induction n generalizing l m with
  | zero =>
    refine ⟨fun h => absurd h (by simp [walkFrom]), fun ⟨⟨hp, hne, _⟩, hlen⟩ => ?_⟩
    exact absurd (hp.eq_of_length_le hlen) hne
  | succ n ih =>
    rw [walkFrom, List.mem_flatMap]
    constructor
    · rintro ⟨name, hname, hm⟩
      rw [mem_names] at hname
      have hchild : l <+: l ++ [name] := List.prefix_append _ _
      split at hm
      next =>
        obtain ⟨⟨hp, hne, hfile⟩, hlen⟩ := ih.mp hm
        have hlt := hp.length_le
        simp only [List.length_append, List.length_singleton] at hlen hlt
        refine ⟨⟨hchild.trans hp, ?_, hfile⟩, by omega⟩
        rintro rfl
        omega
      next hdir =>
        rw [List.mem_singleton.mp hm]
        refine ⟨⟨hchild, by simp, ?_⟩, by simp⟩
        obtain ⟨node, hnode⟩ :=
          Option.isSome_iff_exists.mp ((isSome_node?_iff (by simp)).mpr hname)
        cases node with
        | directory => exact absurd (isDirectoryAt_iff.mpr hnode) hdir
        | file bytes mode => exact ⟨bytes, mode, hnode⟩
    · rintro ⟨⟨⟨rest, rfl⟩, hne, bytes, mode, hfile⟩, hlen⟩
      cases rest with
      | nil => simp at hne
      | cons name rest =>
        have hsplit : l ++ name :: rest = l ++ [name] ++ rest := by simp
        rw [hsplit] at hfile hlen ⊢
        have hchild : l ++ [name] <+: l ++ [name] ++ rest := List.prefix_append _ _
        by_cases hrest : l ++ [name] = l ++ [name] ++ rest
        · rw [← hrest] at hfile ⊢
          refine ⟨name, mem_names.mpr (mem_keys_of_node? (by simp) hfile), ?_⟩
          rw [if_neg (by simp [hfile])]
          exact List.mem_singleton_self _
        · have hdir := tree.node?_of_prefix hfile hchild hrest
          refine ⟨name, mem_names.mpr (mem_keys_of_node? (by simp) hdir), ?_⟩
          rw [if_pos (isDirectoryAt_iff.mpr hdir)]
          refine ih.mpr ⟨⟨hchild, hrest, bytes, mode, hfile⟩, ?_⟩
          simp only [List.length_append, List.length_singleton] at hlen ⊢
          omega

/-- Nothing lies deeper than there are locations: those above it are all different. -/
theorem IsTree.length_le {n : Node} (hm : d.node? m = some n) : m.length ≤ d.nodes.length := by
  have htake : ∀ i < m.length, m.take (i + 1) ∈ d.nodes.map Prod.fst := by
    intro i hi
    have hne : m.take (i + 1) ≠ [] := by
      intro h
      have := congrArg List.length h
      simp only [List.length_take, List.length_nil] at this
      omega
    by_cases heq : m.take (i + 1) = m
    · exact mem_keys_of_node? hne (heq.symm ▸ hm)
    · exact mem_keys_of_node? hne (tree.node?_of_prefix hm (List.take_prefix _ _) heq)
  have hnodup : ((List.range m.length).map fun i => m.take (i + 1)).Nodup := by
    refine List.Nodup.map_on ?_ List.nodup_range
    intro i hi j hj heq
    have := congrArg List.length heq
    simp only [List.length_take] at this
    have := List.mem_range.mp hi
    have := List.mem_range.mp hj
    omega
  have hsub : ((List.range m.length).map fun i => m.take (i + 1)) ⊆ d.nodes.map Prod.fst := by
    intro k hk
    obtain ⟨i, hi, rfl⟩ := List.mem_map.mp hk
    exact htake i (List.mem_range.mp hi)
  simpa using (hnodup.subperm hsub).length_le

/-- A walk visits the files below a directory, however deep they lie. -/
theorem IsTree.mem_walk : m ∈ d.walk l ↔ d.IsFileBelow l m := by
  rw [walk, tree.mem_walkFrom]
  refine ⟨fun h => h.1, fun h => ⟨h, ?_⟩⟩
  obtain ⟨_, _, bytes, mode, hfile⟩ := h
  have := tree.length_le hfile
  omega

/-- What a walk reaches by a name lies at or below the place that is called so. -/
theorem IsTree.prefix_of_mem_named {n : Nat}
    (hm : m ∈ if d.isDirectoryAt (l ++ [name]) then d.walkFrom n (l ++ [name]) else [l ++ [name]]) :
    l ++ [name] <+: m := by
  split at hm
  next => exact (tree.mem_walkFrom.mp hm).1.1
  next => rw [List.mem_singleton.mp hm]

/-- A walk goes through places in the lexicographic order of their components below its start. -/
theorem IsTree.pairwise_walkFrom (n : Nat) (l : Location) :
    (d.walkFrom n l).Pairwise fun m k => m.drop l.length < k.drop l.length := by
  induction n generalizing l with
  | zero => exact List.Pairwise.nil
  | succ n ih =>
    rw [walkFrom, List.pairwise_flatMap]
    constructor
    · intro name _
      split
      next =>
        refine (ih (l ++ [name])).imp_of_mem fun {m k} hm hk hlt => ?_
        obtain ⟨inner, rfl⟩ := (tree.mem_walkFrom.mp hm).1.1
        obtain ⟨other, rfl⟩ := (tree.mem_walkFrom.mp hk).1.1
        rw [List.drop_left, List.drop_left] at hlt
        rw [List.append_assoc, List.append_assoc, List.drop_left, List.drop_left]
        exact List.Lex.cons hlt
      next => exact List.pairwise_singleton _ _
    · refine (tree.pairwise_names l).imp fun {a b} hlt m hm k hk => ?_
      obtain ⟨inner, rfl⟩ := tree.prefix_of_mem_named hm
      obtain ⟨other, rfl⟩ := tree.prefix_of_mem_named hk
      rw [List.append_assoc, List.append_assoc, List.drop_left, List.drop_left]
      exact List.Lex.rel hlt

theorem IsTree.pairwise_walk (l : Location) :
    (d.walk l).Pairwise fun m k => m.drop l.length < k.drop l.length :=
  tree.pairwise_walkFrom _ l

theorem IsTree.nodup_walk (l : Location) : (d.walk l).Nodup := by
  refine (tree.pairwise_walk l).imp fun {m k} hlt heq => ?_
  rw [heq] at hlt
  exact lt_irrefl _ hlt

end

end Stencil.Disk
