import Stencil.Proofs.Target.Templates
import Stencil.Target.Generate

namespace Stencil

/-- The same tree, with its entries listed in another order. -/
structure Disk.Relists (d' d : Disk) : Prop where
  nodes : d'.nodes.Perm d.nodes
  current : d'.current = d.current

instance (d' d : Disk) : Decidable (d'.Relists d) :=
  decidable_of_iff (d'.nodes.Perm d.nodes ∧ d'.current = d.current)
    ⟨fun ⟨h₁, h₂⟩ => ⟨h₁, h₂⟩, fun ⟨h₁, h₂⟩ => ⟨h₁, h₂⟩⟩

namespace Disk

variable {d d' : Disk} {l m : Location} {n : Node} {nodes : List (Location × Node)}

theorem lookup_eq_some_iff_mem (h : (nodes.map Prod.fst).Nodup) :
    nodes.lookup l = some n ↔ (l, n) ∈ nodes := by
  induction nodes with
  | nil => simp
  | cons entry nodes ih =>
    obtain ⟨k, old⟩ := entry
    obtain ⟨hk, hrest⟩ := List.nodup_cons.mp h
    rw [lookup_cons_eq_if, List.mem_cons, Prod.mk.injEq]
    by_cases hl : l = k
    · subst hl
      have hnot : (l, n) ∉ nodes := fun hmem => hk (List.mem_map.mpr ⟨(l, n), hmem, rfl⟩)
      simp [hnot, eq_comm]
    · rw [if_neg hl, ih hrest]
      simp [hl]

namespace Relists

variable (h : d'.Relists d) (tree : d.IsTree)
include h tree

theorem node?_eq (l : Location) : d'.node? l = d.node? l := by
  by_cases hl : l = []
  · subst hl
    rfl
  · rw [node?_of_ne_nil _ hl, node?_of_ne_nil _ hl]
    have hnodup : (d'.nodes.map Prod.fst).Nodup := (h.nodes.map Prod.fst).nodup_iff.mpr tree.nodup
    refine Option.ext fun n => ?_
    rw [lookup_eq_some_iff_mem hnodup, lookup_eq_some_iff_mem tree.nodup, h.nodes.mem_iff]

theorem isTree : d'.IsTree := by
  have hkeys := h.nodes.map Prod.fst
  refine ⟨hkeys.nodup_iff.mpr tree.nodup, fun l hl => ?_, fun l n hl => ?_⟩
  · exact tree.isName l (hkeys.mem_iff.mp hl)
  · rw [isDirectoryAt_iff, h.node?_eq tree]
    exact isDirectoryAt_iff.mp (tree.parent l n (h.node?_eq tree l ▸ hl))

/-- A walk visits the same places, and in one order only. -/
theorem walk_eq (l : Location) : d'.walk l = d.walk l := by
  have tree' := h.isTree tree
  have hperm : (d'.walk l).Perm (d.walk l) := by
    refine (List.perm_ext_iff_of_nodup (tree'.nodup_walk l) (tree.nodup_walk l)).mpr fun m => ?_
    rw [tree'.mem_walk, tree.mem_walk, IsFileBelow, IsFileBelow, h.node?_eq tree]
  refine hperm.eq_of_pairwise (fun m k _ _ hmk hkm => ?_) (tree'.pairwise_walk l)
    (tree.pairwise_walk l)
  exact absurd hkm hmk.asymm

theorem locate_eq (p : Path) : d'.locate p = d.locate p := by
  simp only [locate, h.current, follow_congr (h.node?_eq tree)]

theorem isDirectory_eq (p : Path) : d'.isDirectory p = d.isDirectory p := by
  simp only [isDirectory, find_congr h.current (h.node?_eq tree)]

theorem read_eq (p : Path) : d'.read p = d.read p := by
  simp only [read, find_congr h.current (h.node?_eq tree)]

theorem below_eq (directory : Path) :
    TemplateFile.below d' directory = TemplateFile.below d directory := by
  simp only [TemplateFile.below, TemplateFile.readSource, h.locate_eq tree, h.walk_eq tree,
    h.read_eq tree]

theorem generateBy_eq (t : Target) (render : Engine → TemplateFile → Act Text)
    (data context : Value) : t.generateBy render d' data context = t.generateBy render d data context := by
  simp only [Target.generateBy, Target.templatesFor, h.isDirectory_eq tree, h.below_eq tree]

end Relists

/-- A walk of a tree visits each file below its start once and nothing else, in the lexicographic order
of the components below the start, which themselves are in the order of their code points. So neither
a walk nor what is generated, for any way to render a template, depends on the order in which the disk
lists its entries. -/
theorem IsTree.walk_in_order (tree : d.IsTree) (l : Location) :
    (∀ m, m ∈ d.walk l ↔ d.IsFileBelow l m) ∧ (d.walk l).Nodup ∧
      (d.walk l).Pairwise (fun m k => m.drop l.length < k.drop l.length) ∧
      ∀ d' : Disk, d'.Relists d → d'.walk l = d.walk l ∧
        ∀ (t : Target) (render : Engine → TemplateFile → Act Text) (data context : Value),
          t.generateBy render d' data context = t.generateBy render d data context :=
  ⟨fun _ => tree.mem_walk, tree.nodup_walk l, tree.pairwise_walk l,
    fun _ h => ⟨h.walk_eq tree l, h.generateBy_eq tree⟩⟩

/-- A directory and a file whose name begins as the name of the directory does. -/
def mixedDisk : Disk where
  nodes := [(["a.txt"], .file [] 0o644), (["a", "z"], .directory), (["a"], .directory),
    (["B"], .file [] 0o644), (["a", "z", "c"], .file [] 0o644), (["a", "b"], .file [] 0o644)]

/-- Components are compared one by one: as whole paths, `a.txt` would come first. -/
example : mixedDisk.walk [] =
    ([["B"], ["a", "b"], ["a", "z", "c"], ["a.txt"]] : List Location) := by
  decide +kernel

/-- A file two levels below the directory. -/
def deepFile : Location := ["a", "z", "c"]

theorem walk_in_order_mixedDisk :
    mixedDisk.IsTree ∧ (mixedDisk.walk ["a"]).Nodup ∧
      (deepFile ∈ mixedDisk.walk ["a"] ↔ mixedDisk.IsFileBelow ["a"] deepFile) ∧
      Disk.Relists { mixedDisk with nodes := mixedDisk.nodes.reverse } mixedDisk ∧
      Disk.walk { mixedDisk with nodes := mixedDisk.nodes.reverse } ["a"] = mixedDisk.walk ["a"] := by
  have tree : mixedDisk.IsTree := by decide
  have hlisting : Disk.Relists { mixedDisk with nodes := mixedDisk.nodes.reverse } mixedDisk :=
    ⟨List.reverse_perm _, rfl⟩
  obtain ⟨hmem, hnodup, -, hlistings⟩ := tree.walk_in_order ["a"]
  exact ⟨tree, hnodup, hmem _, hlisting, (hlistings _ hlisting).1⟩

end Disk

end Stencil
