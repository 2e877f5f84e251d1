import Stencil.Proofs.Job
import Stencil.Proofs.Output.Steps
import Stencil.Target.Pipeline

namespace Stencil.Target

variable {t : Target} {directory : Path} {last : Versions} {data data' context : Value}
  {job prepared : Job} {s : Session} {files : List GeneratedFile} {assets : List Asset} {d : Disk}
  {cause : Fault} {render : Value → Engine → TemplateFile → Act Text}

theorem generateIntoBy_of_preprocess (hprepare : (t.preprocess data).run job = (.ok data', prepared)) :
    (t.generateIntoBy render directory last data context).run job =
      (do
        let files ← Work.ofAct (t.generateBy (render data') prepared.disk data' context)
        let assets ← Work.ofDisk (writeFiles t.merge last directory files)
        t.postprocess directory assets
        return assets : Work (List Asset)).run prepared := by
  rw [generateIntoBy, Work.run_bind_ok _ hprepare, Work.run_bind_ok _ (Work.run_get prepared)]

theorem generateIntoBy_of_generate (hprepare : (t.preprocess data).run job = (.ok data', prepared))
    (hgenerate : (t.generateBy (render data') prepared.disk data' context).run prepared.session = (.ok files, s)) :
    (t.generateIntoBy render directory last data context).run job =
      (do
        let assets ← Work.ofDisk (writeFiles t.merge last directory files)
        t.postprocess directory assets
        return assets : Work (List Asset)).run { prepared with session := s } := by
  rw [generateIntoBy_of_preprocess hprepare, Work.run_bind_ok _ (Work.run_ofAct hgenerate)]

theorem generateIntoBy_of_writeFiles_error
    (hprepare : (t.preprocess data).run job = (.ok data', prepared))
    (hgenerate : (t.generateBy (render data') prepared.disk data' context).run prepared.session = (.ok files, s))
    (hwrite : (writeFiles t.merge last directory files).run prepared.disk = (.error cause, d)) :
    (t.generateIntoBy render directory last data context).run job =
      (.error cause, { prepared with session := s, disk := d }) := by
  rw [generateIntoBy_of_generate hprepare hgenerate]
  exact Work.run_bind_error _ (Work.run_ofDisk hwrite)

theorem generateIntoBy_of_writeFiles_ok
    (hprepare : (t.preprocess data).run job = (.ok data', prepared))
    (hgenerate : (t.generateBy (render data') prepared.disk data' context).run prepared.session = (.ok files, s))
    (hwrite : (writeFiles t.merge last directory files).run prepared.disk = (.ok assets, d)) :
    (t.generateIntoBy render directory last data context).run job =
      (do t.postprocess directory assets; return assets : Work (List Asset)).run
        { prepared with session := s, disk := d } := by
  rw [generateIntoBy_of_generate hprepare hgenerate]
  exact Work.run_bind_ok _ (Work.run_ofDisk hwrite)

/-- What comes of a generation into a directory once its data has been prepared, for any way to render
a template. If no files can be generated, the disk is as preparing has left it. If a file cannot be
joined with what stands on disk, the disk is the one that the files before it leave. In both cases that
failure is the answer, and whatever the target does when it is told is not done. If all files are
written, then that is done once, with their records and on the disk that they leave, and the records are
the answer. -/
theorem generateInto_stage_by_stage (t : Target)
    (render : Value → Engine → TemplateFile → Act Text) (directory : Path) (last : Versions)
    (context : Value) {generated : Except Fault (List GeneratedFile)}
    (hprepare : (t.preprocess data).run job = (.ok data', prepared))
    (hgenerate : (t.generateBy (render data') prepared.disk data' context).run prepared.session =
      (generated, s)) :
    (∀ cause, generated = .error cause →
      (t.generateIntoBy render directory last data context).run job =
        (.error cause, { prepared with session := s })) ∧
    (∀ before f after written d cause, generated = .ok (before ++ f :: after) →
      (writeFiles t.merge last directory before).run prepared.disk = (.ok written, d) →
      MergeFails t.merge last directory f d cause →
      (t.generateIntoBy render directory last data context).run job =
        (.error cause, { prepared with session := s, disk := d })) ∧
    (∀ files assets d, generated = .ok files →
      (writeFiles t.merge last directory files).run prepared.disk = (.ok assets, d) →
      (t.generateIntoBy render directory last data context).run job =
        (do t.postprocess directory assets; return assets : Work (List Asset)).run
          { prepared with session := s, disk := d }) := by
  refine ⟨?_, ?_, ?_⟩
  · rintro cause rfl
    rw [generateIntoBy_of_preprocess hprepare]
    exact Work.run_bind_error _ (Work.run_ofAct hgenerate)
  · rintro before f after written d cause rfl hbefore hfails
    exact generateIntoBy_of_writeFiles_error hprepare hgenerate
      (writeFiles_run_error hbefore hfails.writeFile_run)
  · rintro files assets d rfl hwrite
    exact generateIntoBy_of_writeFiles_ok hprepare hgenerate hwrite

/-- Notes that data is prepared and what has been written. -/
def notingTarget : Target where
  base := {}
  preprocess := fun data => do Work.note .preprocessed; return data
  postprocess := fun _ assets => Work.note (.postprocessed (assets.map Asset.filename))

/-- A job with two templates of a kind, and with a file in the output directory. -/
def stagesJob (second : Text) : Job where
  disk := { nodes := [(["templates"], .directory), (["templates", "acme"], .directory),
    (["templates", "acme", "web"], .directory),
    (["templates", "acme", "web", "a.txt"], .file (Text.encode "a") 0o644),
    (["templates", "acme", "web", "b.txt"], .file (Text.encode second) 0o644),
    (["out"], .directory), (["out", "main.go"], .file (Text.encode "mine") 0o600)] }

def acmeDocument : Value :=
  .dict [(.text "kind", .text "acme/web")]

def generateStages (second : Text) : Except Fault (List Asset) × Job :=
  (notingTarget.generateInto ⟨[], ["out"]⟩ [] acmeDocument (.dict [])).run (stagesJob second)

/-- Shows a field of nothing. -/
def failingTemplate : Text :=
  "\x7b\x7b none.x.y \x7d\x7d"

/-- Has a file that is to be joined with the one in the output directory, and another. -/
def joiningTemplate : Text :=
  "#FILENAME:main.go:merge\nnew\n#FILENAME:c.txt\nc"

/-- The first template's file. -/
def firstFile : GeneratedFile :=
  ⟨"a.txt", "a", .writeAlways, "644"⟩

/-- The disk of such a job once that file has been written. -/
def stagesDisk (second : Text) : Disk :=
  (stagesJob second).disk.put ["out", "a.txt"] (.file (Text.encode "a") 0o644)

theorem generateStages_noted :
    ((generateStages failingTemplate).1 =
        .error (.render "templates/acme/web/b.txt" (.general .undefined)) ∧
      (generateStages failingTemplate).2.disk = (stagesJob failingTemplate).disk ∧
      (generateStages failingTemplate).2.journal = [.preprocessed]) ∧
    ((generateStages joiningTemplate).1 = .error (.mergeUnsupported "main.go") ∧
      (generateStages joiningTemplate).2.disk = stagesDisk joiningTemplate ∧
      (generateStages joiningTemplate).2.journal = [.preprocessed]) ∧
    ((generateStages "b").1 = .ok [firstFile.asset, ⟨"b.txt", .writeAlways, "644", checksum "b"⟩] ∧
      (generateStages "b").2.journal = [.preprocessed, .postprocessed ["a.txt", "b.txt"]]) := by
  have hprepare (second : Text) : (notingTarget.preprocess acmeDocument).run (stagesJob second) =
      (.ok acmeDocument, { stagesJob second with journal := [.preprocessed] }) := rfl
  have stages (second : Text) := generateInto_stage_by_stage notingTarget
    (fun data e => notingTarget.renderTemplate e data) ⟨[], ["out"]⟩ [] (.dict []) (hprepare second)
    (Prod.eta _).symm
  refine ⟨?_, ?_, ?_⟩
  · obtain ⟨hrun, -, -⟩ := stages failingTemplate
    rw [generateStages, generateInto, hrun (.render "templates/acme/web/b.txt" (.general .undefined))
      (by decide +kernel)]
    exact ⟨rfl, rfl, rfl⟩
  · obtain ⟨-, hrun, -⟩ := stages joiningTemplate
    have hfails : MergeFails refuseMerge [] ⟨[], ["out"]⟩ ⟨"main.go", "new", .merge, "644"⟩
        (stagesDisk joiningTemplate) (.mergeUnsupported "main.go") :=
      ⟨rfl, by decide +kernel, ⟨"main.go", "mine", "600"⟩, by decide +kernel, rfl⟩
    rw [generateStages, generateInto, hrun [firstFile] _ [⟨"c.txt", "c", .writeAlways, "644"⟩]
      [firstFile.asset] _ _ (by decide +kernel) rfl hfails]
    exact ⟨rfl, rfl, rfl⟩
  · obtain ⟨-, -, hrun⟩ := stages "b"
    rw [generateStages, generateInto, hrun [firstFile, ⟨"b.txt", "b", .writeAlways, "644"⟩] _ _
      (by decide +kernel) rfl]
    exact ⟨rfl, rfl⟩

end Stencil.Target
