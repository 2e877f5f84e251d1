import Stencil.Proofs.Disk.Trail
import Stencil.Proofs.Target.Failure

namespace Stencil

open Disk

namespace Disk

variable {d : Disk} {l m : Location} {root : Text} {base inner parts : List Text}

theorem prefix_foldl_enter (h : staysBelow 0 parts = true) : l <+: parts.foldl enter l := by
  by_cases hne : parts = []
  · subst hne
    exact List.prefix_rfl
  · have hbelow : staysBelow ([] : List Text).length parts = true := h
    refine prefix_of_mem_trail hbelow ?_
    rw [List.append_nil]
    exact foldl_enter_mem_trail l hne

theorem LeadsInto.eq_foldl (into : d.LeadsInto ⟨root, base⟩ l)
    (h : d.LeadsInto ⟨root, base ++ inner⟩ m) : m = inner.foldl enter l := by
  obtain ⟨k, hk, hfollow⟩ := Disk.locate_append h.1
  cases Except.ok.inj (into.1.symm.trans hk)
  exact follow_eq_foldl hfollow

theorem IsFileBelow.strictly_below (h : d.IsFileBelow l m) {k : Location} (hk : k <+: l) :
    k <+: m ∧ m ≠ k := by
  refine ⟨hk.trans h.1, ?_⟩
  rintro rfl
  exact h.2.1 (h.1.eq_of_length_le hk.length_le)

theorem IsFileBelow.not_below (h : d.IsFileBelow l m) {k : Location} (hk : ¬ k <+: l)
    (hl : ¬ l <+: k) : ¬ k <+: m := by
  intro hm
  rcases List.prefix_or_prefix_of_prefix hm h.1 with hkl | hlk
  · exact hk hkl
  · exact hl hlk

end Disk

namespace Target

/-- The location that the name of a kind leads to from another location. -/
def kindLocation (root : Location) (k : Text) : Location :=
  (Path.parse (Kind.parse k).fullName).parts.foldl enter root

/-- What a generation renders, for any way to render a template: the files below one location, one
after the other. They can insert the files below another one, where the templates are. -/
structure RendersBelow (t : Target) (d : Disk) (data context : Value) (s : Session)
    (root l : Location) : Prop where
  templates : d.LeadsInto t.templatesPath root
  own : ∃ directory, d.LeadsInto directory l ∧ ∀ render : Engine → TemplateFile → Act Text,
    (t.generateBy render d data context).run s =
      (filesOf (render (t.engineWith context
        ((d.walk root).map (TemplateFile.ofFile d t.templatesPath root)))) t.polish
        ((d.walk l).map (TemplateFile.ofFile d directory l))).run s

section

variable {t : Target} {d : Disk} {data context : Value} {k : Text} {root : Location}

theorem kindLocation_eq (into : d.LeadsInto t.templatesPath root)
    (hname : (Kind.parse k).fullName ≠ [])
    {l : Location} (h : d.LeadsInto (t.templatesPath.child (Kind.parse k).fullName) l) :
    l = kindLocation root k := by
  rw [Path.child, Path.join, Kind.isAbsolute_fullName hname] at h
  exact into.eq_foldl h

theorem rendersBelow_kindLocation (t : Target) (tree : d.IsTree) (s : Session)
    (hkind : ((s.store.resolve data).get "kind").asText? = some k)
    (hname : (Kind.parse k).fullName ≠ [])
    (hdir : d.isDirectory (t.templatesPath.child (Kind.parse k).fullName) = .ok true)
    (hcontext : context ≠ .null) :
    ∃ root, t.RendersBelow d data context s root (kindLocation root k) := by
  obtain ⟨root, into⟩ := isDirectory_iff.mp (isDirectory_templatesPath t hname hdir)
  obtain ⟨l, hl⟩ := isDirectory_iff.mp hdir
  obtain rfl := kindLocation_eq into hname hl
  have hall := TemplateFile.below_eq tree into.1 into.2
  have hown := TemplateFile.below_eq tree hl.1 hl.2
  exact ⟨root, into, _, hl, fun render =>
    run_generateBy t render s hkind hname hdir hcontext hall hown⟩

/-- Without a directory for the kind, or without a context document, a generation ends before its first
template, whatever the way to render one. -/
theorem generateBy_ends (t : Target) (data context : Value) (s : Session)
    (h : t.HasTemplates d ((s.store.resolve data).get "kind") → context = .null) :
    ∃ cause, ∀ render, (t.generateBy render d data context).run s = (.error cause, s) := by
  rcases templatesFor_cases t d ((s.store.resolve data).get "kind") with
    has | ⟨c, hmissing⟩ | ⟨c, hescapes⟩
  · obtain rfl := h has
    obtain ⟨c, hrun⟩ := has.generateBy_run_noContext
    exact ⟨_, hrun⟩
  · exact ⟨_, fun _ => generateBy_run_error hmissing⟩
  · exact ⟨_, fun _ => generateBy_run_error hescapes.templatesFor_eq⟩

/-- A generation that gets to its templates renders the files below the place that the name of its
kind leads to from the templates. They lie inside the templates when this place does, so always when
the name never leads further up than it has led down; when the place is neither inside nor above the
templates, none of them does. What they can insert always lies inside. -/
theorem generate_renders_inside (t : Target) (tree : d.IsTree) (data context : Value)
    (s : Session) :
    ((t.HasTemplates d ((s.store.resolve data).get "kind") → context = .null) →
      ∃ cause, ∀ render, (t.generateBy render d data context).run s = (.error cause, s)) ∧
    (t.HasTemplates d ((s.store.resolve data).get "kind") → context ≠ .null →
      ∃ k root, ((s.store.resolve data).get "kind").asText? = some k ∧
        t.RendersBelow d data context s root (kindLocation root k) ∧
        (staysBelow 0 (Path.parse (Kind.parse k).fullName).parts = true →
          root <+: kindLocation root k) ∧
        (root <+: kindLocation root k →
          ∀ m ∈ d.walk (kindLocation root k), root <+: m ∧ m ≠ root) ∧
        (¬ root <+: kindLocation root k → ¬ kindLocation root k <+: root →
          ∀ m ∈ d.walk (kindLocation root k), ¬ root <+: m) ∧
        ∀ m ∈ d.walk root, root <+: m ∧ m ≠ root) := by
  refine ⟨generateBy_ends t data context s, ?_⟩
  rintro ⟨k, hkind, hname, hdir⟩ hcontext
  obtain ⟨root, hrenders⟩ := rendersBelow_kindLocation t tree s hkind hname hdir hcontext
  refine ⟨k, root, hkind, hrenders, prefix_foldl_enter, fun hinside m hm => ?_,
    fun hout habove m hm => ?_, fun m hm => ?_⟩
  · exact (tree.mem_walk.mp hm).strictly_below hinside
  · exact (tree.mem_walk.mp hm).not_below hout habove
  · exact (tree.mem_walk.mp hm).strictly_below List.prefix_rfl

end

/-- A document whose kind goes up inside the templates. -/
def windingDocument : Value :=
  .dict [(.text "kind", .text "Acme/job/../web:1.0")]

theorem generate_renders_inside_winding :
    kindsDisk.IsTree ∧
      RendersBelow { base := {} } kindsDisk windingDocument (.dict []) {} ["templates"]
        ["templates", "acme", "web"] ∧
      ∀ m ∈ kindsDisk.walk ["templates", "acme", "web"],
        (["templates"] : Location) <+: m ∧ m ≠ ["templates"] := by
  have tree : kindsDisk.IsTree := by decide
  have has : HasTemplates { base := {} } kindsDisk
      ((({} : Session).store.resolve windingDocument).get "kind") :=
    ⟨"Acme/job/../web:1.0".toList, rfl, by decide, by decide⟩
  have hcontext : (.dict [] : Value) ≠ .null := by simp
  obtain ⟨k, root, hkind, hrenders, hstays, hinside, -⟩ :=
    (generate_renders_inside { base := {} } tree windingDocument (.dict []) {}).2 has hcontext
  obtain rfl : "Acme/job/../web:1.0".toList = k := Option.some.inj hkind
  obtain rfl : (["templates"] : Location) = root := Except.ok.inj hrenders.templates.1
  have hlocation : kindLocation ["templates"] "Acme/job/../web:1.0" =
      ["templates", "acme", "web"] := by decide
  rw [hlocation] at hrenders hstays hinside
  exact ⟨tree, hrenders, hinside (hstays (by decide))⟩

/-- A file beside the templates. -/
def strayDisk : Disk where
  nodes := [(["templates"], .directory), (["out"], .directory),
    (["out", "a.txt"], .file (Text.encode "mine") 0o644)]

/-- A document whose kind goes up out of the templates. -/
def strayDocument : Value :=
  .dict [(.text "kind", .text "../out")]

/-- A generation may take a file for a template that lies outside the templates. -/
theorem generate_renders_outside :
    strayDisk.IsTree ∧
      (¬ ∀ root l, RendersBelow { base := {} } strayDisk strayDocument (.dict []) {} root l →
        ∀ m ∈ strayDisk.walk l, root <+: m) ∧
      ((generate { base := {} } strayDisk strayDocument (.dict [])).run {}).1.toOption =
        some [⟨"a.txt", "mine", .writeAlways, "644"⟩] := by
  have tree : strayDisk.IsTree := by decide
  refine ⟨tree, fun inside => ?_, by decide +kernel⟩
  have hkind : ((({} : Session).store.resolve strayDocument).get "kind").asText? =
      some "../out".toList := rfl
  have hcontext : (.dict [] : Value) ≠ .null := by simp
  obtain ⟨root, hrenders⟩ := rendersBelow_kindLocation { base := {} } tree {} hkind (by decide)
    (by decide) hcontext
  obtain rfl : (["templates"] : Location) = root := Except.ok.inj hrenders.templates.1
  exact absurd (inside _ _ hrenders ["out", "a.txt"] (by decide +kernel)) (by decide)

end Target

end Stencil
