import Stencil.Proofs.Disk.Route
import Stencil.Proofs.Disk.Walk
import Stencil.Proofs.Text.Case
import Stencil.Proofs.Text.Cut
import Stencil.Target.Templates

namespace Stencil

open Disk

namespace Kind

theorem ne_slash_of_handle {t : Text} {c : Char} {rest : Text}
    (h : (parse t).handle = c :: rest) : c ≠ '/' := by
  rintro rfl
  unfold parse at h
  split at h
  split at h
  next path version _ handle name hcut =>
    refine Text.not_infix_of_cut? (by decide) hcut ?_
    rw [show handle = '/' :: rest from h]
    exact (List.prefix_append ['/'] rest).isInfix.trans (List.prefix_append _ _).isInfix
  next => simp at h

/-- The directory of a kind is looked for inside the templates. -/
theorem isAbsolute_fullName {t : Text} (h : (parse t).fullName ≠ []) :
    (Path.parse (parse t).fullName).isAbsolute = false := by
  unfold fullName at h ⊢
  split at h
  next => exact absurd rfl h
  next hparts =>
    rw [if_neg hparts]
    cases hhandle : (parse t).handle with
    | nil => simp [hhandle] at hparts
    | cons c rest =>
      obtain ⟨a, s, hlower, ha⟩ :=
        Text.lower_cons_eq_cons (ne_slash_of_handle hhandle) (rest ++ '/' :: (parse t).name)
      rw [List.cons_append, hlower]
      simp [Path.parse, Path.isAbsolute, Path.rootOf, ha]

end Kind

namespace Disk

variable {d : Disk} {p : Path}

theorem isDirectory_iff :
    d.isDirectory p = .ok true ↔ ∃ l, d.locate p = .ok l ∧ d.node? l = some .directory := by
  rw [← find_eq_ok_iff, isDirectory]
  cases d.find p with
  | error o => cases o <;> simp
  | ok n => simp

theorem isDirectory_of_append {root : Text} {ps qs : List Text}
    (h : d.isDirectory ⟨root, ps ++ qs⟩ = .ok true) : d.isDirectory ⟨root, ps⟩ = .ok true := by
  rw [isDirectory_iff] at h ⊢
  obtain ⟨l, hlocate, hl⟩ := h
  obtain ⟨m, hm, hfollow⟩ := locate_append hlocate
  refine ⟨m, hm, ?_⟩
  cases qs with
  | nil =>
    cases Except.ok.inj hfollow
    exact hl
  | cons q qs => exact directory_of_follow hfollow

def bytesAt (d : Disk) (m : Location) : Text.Bytes :=
  match d.node? m with
  | some (.file bytes _) => bytes
  | _ => []

theorem IsTree.read_below {l m : Location} (tree : d.IsTree) (hlocate : d.locate p = .ok l)
    (hl : d.node? l = some .directory) (hm : d.IsFileBelow l m) :
    d.read { p with parts := p.parts ++ m.drop l.length } = .ok (d.bytesAt m) := by
  obtain ⟨⟨inner, rfl⟩, hne, bytes, mode, hfile⟩ := hm
  have hnames : ∀ name ∈ inner, IsName name := by
    have hkey := mem_keys_of_node? (by rintro h; simp [List.append_eq_nil_iff.mp h] at hne) hfile
    exact fun name hmem => tree.isName _ hkey name (List.mem_append_right l hmem)
  have hdenotes : d.Denotes { p with parts := p.parts ++ inner } (l ++ inner) :=
    ⟨p.parts, inner, l, rfl, hlocate, isDirectoryAt_iff.mpr hl, hnames, rfl⟩
  have hfind := tree.find hdenotes (tree.openAbove hfile)
  rw [hfile] at hfind
  rw [List.drop_left, Disk.read, hfind, bytesAt, hfile]
  rfl

end Disk

/-- The template that a file is, seen from a directory above it. -/
def TemplateFile.ofFile (d : Disk) (directory : Path) (l m : Location) : TemplateFile where
  filename := Text.join ['/'] (m.drop l.length)
  path := ({ directory with parts := directory.parts ++ m.drop l.length } : Path).toText
  source := Text.normalizeNewlines (Text.decodeLossy (d.bytesAt m))

theorem mapM_eq_ok {α β ε : Type} {f : α → Except ε β} {g : α → β} {xs : List α}
    (h : ∀ x ∈ xs, f x = .ok (g x)) : xs.mapM f = .ok (xs.map g) := by
  induction xs with
  | nil => rfl
  | cons x xs ih =>
    rw [List.mapM_cons, h x List.mem_cons_self, ih fun y hy => h y (List.mem_cons_of_mem x hy)]
    rfl

section

variable {d : Disk} {directory : Path} {l m : Location} (tree : d.IsTree)
include tree

/-- The templates below a directory are the files below it, each under its path from there. -/
theorem TemplateFile.below_eq (hlocate : d.locate directory = .ok l)
    (hl : d.node? l = some .directory) :
    TemplateFile.below d directory = .ok ((d.walk l).map (TemplateFile.ofFile d directory l)) := by
  rw [TemplateFile.below, hlocate]
  refine mapM_eq_ok fun m hm => ?_
  have hread := tree.read_below hlocate hl (tree.mem_walk.mp hm)
  simp only [TemplateFile.readSource, hread]
  rfl

theorem Disk.IsFileBelow.filename_injective {k : Location} (hm : d.IsFileBelow l m)
    (hk : d.IsFileBelow l k) (h : (TemplateFile.ofFile d directory l m).filename =
      (TemplateFile.ofFile d directory l k).filename) : m = k := by
  have hsplit : ∀ m, d.IsFileBelow l m →
      (TemplateFile.ofFile d directory l m).filename.splitOn '/' = m.drop l.length := by
    rintro _ ⟨⟨inner, rfl⟩, hne, bytes, mode, hfile⟩
    have hinner : inner ≠ [] := by
      rintro rfl
      simp at hne
    have hkey := mem_keys_of_node? (by simp [hinner]) hfile
    simp only [TemplateFile.ofFile, List.drop_left]
    refine List.splitOn_intercalate '/' (fun name hmem => ?_) hinner
    exact (tree.isName _ hkey name (List.mem_append_right l hmem)).slash_notMem
  have hdrop := (hsplit m hm).symm.trans ((congrArg _ h).trans (hsplit k hk))
  obtain ⟨⟨inner, rfl⟩, _⟩ := hm
  obtain ⟨⟨other, rfl⟩, _⟩ := hk
  simpa using hdrop

theorem TemplateFile.nodup_filenames (directory : Path) (l : Location) :
    (((d.walk l).map (TemplateFile.ofFile d directory l)).map TemplateFile.filename).Nodup := by
  rw [List.map_map]
  refine List.Nodup.map_on ?_ (tree.nodup_walk l)
  exact fun m hm k hk h => IsFileBelow.filename_injective tree (tree.mem_walk.mp hm)
    (tree.mem_walk.mp hk) h

end

end Stencil
