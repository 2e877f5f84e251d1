import Stencil.Proofs.Output.History
import Stencil.Proofs.Target.Generation

namespace Stencil

/-- The file with its content passed through a hook. -/
def GeneratedFile.polished (hook : Text → Text → Text) (f : GeneratedFile) : GeneratedFile :=
  { f with content := hook f.filename f.content }

theorem Segment.close_eq_polished (hook : Text → Text → Text) (s : Segment) :
    s.close hook = (s.close keepBody).polished hook := rfl

theorem splitFiles_eq_map (filename source : Text) (hook : Text → Text → Text) :
    splitFiles filename source hook =
      (splitFiles filename source).map (GeneratedFile.polished hook) := by
  rw [Splitter.splitFiles_eq_run, Splitter.splitFiles_eq_run, Splitter.run_files, Splitter.run_files,
    List.map_map]
  exact List.map_congr_left fun s _ => s.close_eq_polished hook

/-- A file stays although the hook empties its body. -/
example : (splitFiles "a.txt" "x" fun _ _ => []).map GeneratedFile.content = [[]] := by
  decide +kernel

theorem filesOf_eq_map (render : TemplateFile → Act Text) (hook : Text → Text → Text)
    (templates : List TemplateFile) :
    filesOf render hook templates =
      List.map (GeneratedFile.polished hook) <$> filesOf render keepBody templates := by
  induction templates with
  | nil => rw [filesOf, filesOf, map_pure, List.map_nil]
  | cons f templates ih =>
    rw [filesOf, filesOf, ih, map_bind]
    refine bind_congr fun text => ?_
    rw [map_bind]
    refine bind_congr fun _ => ?_
    rw [map_bind, bind_map_left]
    refine bind_congr fun files => ?_
    rw [map_pure, List.map_append, ← splitFiles_eq_map]

theorem Act.run_map {α β : Type} (f : α → β) (a : Act α) (s : Session) :
    (f <$> a).run s = Prod.map (Except.map f) id (a.run s) := by
  rw [← bind_pure_comp, Act.run_bind]
  rcases a.run s with ⟨_ | x, s'⟩ <;> rfl

namespace Target

/-- The same target with files as they are rendered. -/
def plain (t : Target) : Target :=
  { t with polish := keepBody }

theorem generateBy_eq_map (t : Target) (render : Engine → TemplateFile → Act Text) (d : Disk)
    (data context : Value) : t.generateBy render d data context =
      List.map (GeneratedFile.polished t.polish) <$> t.plain.generateBy render d data context := by
  rw [generateBy, generateBy, map_bind]
  refine bind_congr fun kind => ?_
  rw [map_bind]
  refine bind_congr fun directory => ?_
  rw [map_bind]
  refine bind_congr fun _ => ?_
  rw [map_bind]
  refine bind_congr fun all => ?_
  rw [map_bind]
  exact bind_congr fun own => filesOf_eq_map _ t.polish own

/-- Passing bodies through a hook while a text is split comes to splitting it and then passing each
content through the hook. So for any way to render a template a tidy target gives the files of the plain
one, in number and order and with their names, modes and permissions, and each content tidied; where one
fails the other fails with the same fault, and both leave the same session. -/
theorem generate_tidied (t : Target) :
    (∀ (filename source : Text) (hook : Text → Text → Text),
      splitFiles filename source hook =
        (splitFiles filename source).map (GeneratedFile.polished hook)) ∧
    ∀ (render : Engine → TemplateFile → Act Text) (d : Disk) (data context : Value) (s : Session),
      (t.tidied.generateBy render d data context).run s =
        Prod.map (Except.map (List.map (GeneratedFile.polished Tidy.apply))) id
          ((t.plain.generateBy render d data context).run s) := by
  refine ⟨splitFiles_eq_map, fun render d data context s => ?_⟩
  rw [generateBy_eq_map, Act.run_map]
  rfl

end Target

end Stencil
