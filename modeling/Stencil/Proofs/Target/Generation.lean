import Stencil.Proofs.Engine.Session
import Stencil.Proofs.Target.Templates
import Stencil.Target.Generate

namespace Stencil

/-- The session in which what is odd about a rendered text has been reported. -/
def Session.reporting (s : Session) (text : Text) : Session :=
  { s with warnings := s.warnings ++ splitWarnings text }

/-- Templates render one after the other to texts, each in the session that is left before it. -/
inductive Renders (render : TemplateFile → Act Text) :
    List TemplateFile → Session → List Text → Session → Prop
  | nil (s : Session) : Renders render [] s [] s
  | cons {f : TemplateFile} {templates : List TemplateFile} {text : Text} {texts : List Text}
    {s s₁ s₂ : Session} (first : (render f).run s = (.ok text, s₁))
    (rest : Renders render templates (s₁.reporting text) texts s₂) :
    Renders render (f :: templates) s (text :: texts) s₂

def splitTexts (polish : Text → Text → Text) (templates : List TemplateFile) (texts : List Text) :
    List GeneratedFile :=
  (templates.zip texts).flatMap fun (f, text) => splitFiles f.filename text polish

section

variable {render : TemplateFile → Act Text} {polish : Text → Text → Text} {f : TemplateFile}
  {templates before after : List TemplateFile} {text : Text} {texts : List Text} {cause : Fault}
  {s s₁ s₂ : Session}

theorem run_blaming_ok (h : (render f).run s = (.ok text, s₁)) :
    (f.blaming (render f)).run s = (.ok text, s₁) := by
  rw [TemplateFile.blaming, Act.run_tryCatch, h]

theorem run_blaming_error (h : (render f).run s = (.error cause, s₁)) :
    (f.blaming (render f)).run s = (.error (.render f.path cause), s₁) := by
  rw [TemplateFile.blaming, Act.run_tryCatch, h]
  rfl

theorem run_reportOddities (text : Text) (s : Session) :
    (reportOddities text).run s = (.ok (), s.reporting text) :=
  Act.run_forM_warn (splitWarnings text) s

theorem filesOf_cons (h : (render f).run s = (.ok text, s₁)) :
    (filesOf render polish (f :: templates)).run s =
      (do return splitFiles f.filename text polish ++ (← filesOf render polish templates) :
        Act (List GeneratedFile)).run (s₁.reporting text) := by
  rw [filesOf, Act.run_bind_ok _ (run_blaming_ok h), Act.run_bind_ok _ (run_reportOddities text s₁)]

theorem filesOf_run (h : Renders render templates s texts s₁) :
    (filesOf render polish templates).run s = (.ok (splitTexts polish templates texts), s₁) := by
  induction h with
  | nil s => rfl
  | cons first rest ih =>
    rw [filesOf_cons first, Act.run_bind_ok _ ih]
    rfl

/-- The first template that fails ends the generation with the session that it leaves. -/
theorem filesOf_run_error (h : Renders render before s texts s₁)
    (hf : (render f).run s₁ = (.error cause, s₂)) :
    (filesOf render polish (before ++ f :: after)).run s = (.error (.render f.path cause), s₂) := by
  induction h with
  | nil s => exact Act.run_bind_error _ (run_blaming_error hf)
  | cons first rest ih =>
    rw [List.cons_append, filesOf_cons first]
    exact Act.run_bind_error _ (ih hf)

/-- Either all templates render, or there is a first one that fails. -/
theorem renders_or_fails (render : TemplateFile → Act Text) (templates : List TemplateFile)
    (s : Session) :
    (∃ texts s₁, Renders render templates s texts s₁) ∨
      ∃ before f after texts s₁ cause s₂, templates = before ++ f :: after ∧
        Renders render before s texts s₁ ∧ (render f).run s₁ = (.error cause, s₂) := by
  induction templates generalizing s with
  | nil => exact Or.inl ⟨[], s, .nil s⟩
  | cons f templates ih =>
    rcases hf : (render f).run s with ⟨cause | text, s₁⟩
    · exact Or.inr ⟨[], f, templates, [], s, cause, s₁, rfl, .nil s, hf⟩
    · rcases ih (s₁.reporting text) with ⟨texts, s₂, hrest⟩ |
        ⟨before, g, after, texts, s₂, cause, s₃, rfl, hbefore, hg⟩
      · exact Or.inl ⟨text :: texts, s₂, .cons hf hrest⟩
      · exact Or.inr ⟨f :: before, g, after, text :: texts, s₂, cause, s₃, rfl,
          .cons hf hbefore, hg⟩

end

namespace Target

variable {d : Disk} {kind data context : Value} {k : Text}

theorem kindDirectory_eq (hkind : kind.asText? = some k) (hname : (Kind.parse k).fullName ≠ []) :
    kindDirectory kind = .ok (Kind.parse k).fullName := by
  have hk : k ≠ [] := by
    rintro rfl
    exact hname rfl
  have htruthy : kind.truthy = true := by
    cases kind <;> simp_all [Value.asText?, Value.truthy]
  simp [kindDirectory, htruthy, hkind, hname, pure, Except.pure]

theorem templatesFor_eq (t : Target) (hkind : kind.asText? = some k)
    (hname : (Kind.parse k).fullName ≠ [])
    (hdir : d.isDirectory (t.templatesPath.child (Kind.parse k).fullName) = .ok true) :
    t.templatesFor d kind = .ok (t.templatesPath.child (Kind.parse k).fullName) := by
  simp [templatesFor, kindDirectory_eq hkind hname, hdir, bind, Except.bind, pure, Except.pure]

theorem expectDocuments_eq (hdata : data ≠ .null) (hcontext : context ≠ .null) :
    Engine.expectDocuments data context = .ok () := by
  unfold Engine.expectDocuments
  split
  next => exact absurd rfl hdata
  next => exact absurd rfl hcontext
  next => rfl

theorem isDirectory_templatesPath (t : Target) (hname : (Kind.parse k).fullName ≠ [])
    (hdir : d.isDirectory (t.templatesPath.child (Kind.parse k).fullName) = .ok true) :
    d.isDirectory t.templatesPath = .ok true := by
  rw [Path.child, Path.join, Kind.isAbsolute_fullName hname] at hdir
  exact Disk.isDirectory_of_append hdir

theorem run_kindOf (data : Value) (s : Session) :
    (kindOf data).run s = (.ok ((s.store.resolve data).get "kind"), s) := by
  rw [kindOf, Act.run_bind_ok _ (Act.run_resolve data s), Act.run_pure]

theorem run_generateBy (t : Target) (render : Engine → TemplateFile → Act Text) (s : Session)
    {own all : List TemplateFile} (hkind : ((s.store.resolve data).get "kind").asText? = some k)
    (hname : (Kind.parse k).fullName ≠ [])
    (hdir : d.isDirectory (t.templatesPath.child (Kind.parse k).fullName) = .ok true)
    (hcontext : context ≠ .null) (hall : TemplateFile.below d t.templatesPath = .ok all)
    (hown : TemplateFile.below d (t.templatesPath.child (Kind.parse k).fullName) = .ok own) :
    (t.generateBy render d data context).run s =
      (filesOf (render (t.engineWith context all)) t.polish own).run s := by
  have hdata : data ≠ .null := by
    rintro rfl
    simp [Value.get, Value.asText?] at hkind
  rw [generateBy, Act.run_bind_ok _ (run_kindOf data s), templatesFor_eq t hkind hname hdir,
    Act.run_bind_ok _ (Act.run_ofExcept _ s), expectDocuments_eq hdata hcontext,
    Act.run_bind_ok _ (Act.run_ofExcept _ s), hall, Act.run_bind_ok _ (Act.run_ofExcept _ s), hown,
    Act.run_bind_ok _ (Act.run_ofExcept _ s)]

theorem setPartial_of_notMem {name source : Text} {sources : List (Text × Text)}
    (h : name ∉ sources.map Prod.fst) :
    Engine.setPartial name source sources = sources ++ [(name, source)] := by
  induction sources with
  | nil => rfl
  | cons other sources ih =>
    rw [List.map_cons, List.mem_cons, not_or] at h
    rw [Engine.setPartial, if_neg h.1, ih h.2, List.cons_append]

/-- Templates with names of their own are all kept when they are added one after the other. -/
theorem foldl_addPartial (t : Target) (context : Value) (before : List TemplateFile)
    {templates : List TemplateFile}
    (h : ((before ++ templates).map TemplateFile.filename).Nodup) :
    templates.foldl (fun e f => e.addPartial f.filename f.source) (t.engineWith context before) =
      t.engineWith context (before ++ templates) := by
  induction templates generalizing before with
  | nil => rw [List.foldl_nil, List.append_nil]
  | cons f templates ih =>
    have hsplit : before ++ f :: templates = before ++ [f] ++ templates := by simp
    have hf : f.filename ∉ (before.map fun f => (f.filename, f.source)).map Prod.fst := by
      rw [List.map_append, List.map_cons, List.nodup_middle, List.nodup_cons] at h
      intro hmem
      simp only [List.map_map, Function.comp_def] at hmem
      exact h.1 (List.mem_append_left _ hmem)
    have hadd : (t.engineWith context before).addPartial f.filename f.source =
        t.engineWith context (before ++ [f]) := by
      simp [Engine.addPartial, engineWith, setPartial_of_notMem hf]
    rw [List.foldl_cons, hadd, hsplit]
    exact ih _ (hsplit ▸ h)

/-- What a generation has at hand before it renders the first template: the templates of the kind's
directory in the order of the walk, and an engine that knows every file below the templates under a
name of its own, its path from there. -/
structure Prepared (t : Target) (d : Disk) (directory : Path) (own : List TemplateFile)
    (e : Engine) : Prop where
  own : ∃ l, d.locate directory = .ok l ∧ own = (d.walk l).map (TemplateFile.ofFile d directory l)
  distinct : (e.partials.map Prod.fst).Nodup
  registered : ∃ l start, d.locate t.templatesPath = .ok l ∧ start.partials = [] ∧
    e = ((d.walk l).map (TemplateFile.ofFile d t.templatesPath l)).foldl
      (fun e f => e.addPartial f.filename f.source) start ∧
    ∀ m, d.IsFileBelow l m → (Text.join ['/'] (m.drop l.length),
      Text.normalizeNewlines (Text.decodeLossy (d.bytesAt m))) ∈ e.partials

/-- For any way to render a template: if the kind's templates all render, the result is what their
texts are split into, and if not, it is the failure of the first one that fails, with the session
that this one has left. -/
theorem generateBy_in_order (t : Target) (render : Engine → TemplateFile → Act Text) (s : Session)
    (tree : d.IsTree) (hkind : ((s.store.resolve data).get "kind").asText? = some k)
    (hname : (Kind.parse k).fullName ≠ [])
    (hdir : d.isDirectory (t.templatesPath.child (Kind.parse k).fullName) = .ok true)
    (hcontext : context ≠ .null) :
    ∃ own e, t.Prepared d (t.templatesPath.child (Kind.parse k).fullName) own e ∧
      (∀ texts s₁, Renders (render e) own s texts s₁ →
        (t.generateBy render d data context).run s = (.ok (splitTexts t.polish own texts), s₁)) ∧
      (∀ before f after texts s₁ cause s₂, own = before ++ f :: after →
        Renders (render e) before s texts s₁ → (render e f).run s₁ = (.error cause, s₂) →
        (t.generateBy render d data context).run s = (.error (.render f.path cause), s₂)) ∧
      ((∃ texts s₁, Renders (render e) own s texts s₁) ∨
        ∃ before f after texts s₁ cause s₂, own = before ++ f :: after ∧
          Renders (render e) before s texts s₁ ∧ (render e f).run s₁ = (.error cause, s₂)) := by
  obtain ⟨root, hroot, hrootdir⟩ :=
    Disk.isDirectory_iff.mp (isDirectory_templatesPath t hname hdir)
  obtain ⟨l, hlocate, hl⟩ := Disk.isDirectory_iff.mp hdir
  have hall := TemplateFile.below_eq tree hroot hrootdir
  have hown := TemplateFile.below_eq tree hlocate hl
  have hrun := run_generateBy t render s hkind hname hdir hcontext hall hown
  have hnodup := TemplateFile.nodup_filenames tree t.templatesPath root
  refine ⟨_, t.engineWith context ((d.walk root).map (TemplateFile.ofFile d t.templatesPath root)),
    ⟨⟨l, hlocate, rfl⟩, ?_, root, t.engineWith context [], hroot, rfl, ?_, ?_⟩, ?_, ?_,
    renders_or_fails _ _ s⟩
  · simpa [engineWith, Function.comp_def] using hnodup
  · exact (foldl_addPartial t context [] hnodup).symm
  · intro m hm
    exact List.mem_map_of_mem (List.mem_map_of_mem (tree.mem_walk.mpr hm))
  · intro texts s₁ h
    rw [hrun]
    exact filesOf_run h
  · intro before f after texts s₁ cause s₂ heq h hf
    rw [hrun, heq]
    exact filesOf_run_error h hf

/-- Two templates of one kind beside one of another. -/
def kindsDisk : Disk where
  nodes := [(["templates"], .directory), (["templates", "acme"], .directory),
    (["templates", "acme", "job"], .directory), (["templates", "acme", "web"], .directory),
    (["templates", "acme", "web", "b.txt"], .file (Text.encode "b") 0o644),
    (["templates", "acme", "web", "a.txt"], .file (Text.encode "a") 0o644),
    (["templates", "acme", "job", "c.txt"], .file (Text.encode "c") 0o644)]

/-- A document of a kind that is written in capitals and has a version. -/
def webDocument : Value :=
  .dict [(.text "kind", .text "kapeta://Acme/Web:1.0")]

theorem generate_webDocument :
    ∃ own e, Prepared { base := {} } kindsDisk ⟨[], ["templates", "acme", "web"]⟩ own e ∧
      (∀ texts s₁,
        Renders (renderTemplate { base := {} } e webDocument) own {} texts s₁ →
        (generate { base := {} } kindsDisk webDocument (.dict [])).run {} =
          (.ok (splitTexts keepBody own texts), s₁)) ∧
      (∀ before f after texts s₁ cause s₂, own = before ++ f :: after →
        Renders (renderTemplate { base := {} } e webDocument) before {} texts s₁ →
        (renderTemplate { base := {} } e webDocument f).run s₁ = (.error cause, s₂) →
        (generate { base := {} } kindsDisk webDocument (.dict [])).run {} =
          (.error (.render f.path cause), s₂)) ∧
      ((∃ texts s₁, Renders (renderTemplate { base := {} } e webDocument) own {} texts s₁) ∨
        ∃ before f after texts s₁ cause s₂, own = before ++ f :: after ∧
          Renders (renderTemplate { base := {} } e webDocument) before {} texts s₁ ∧
          (renderTemplate { base := {} } e webDocument f).run s₁ = (.error cause, s₂)) :=
  generateBy_in_order (k := "kapeta://Acme/Web:1.0") { base := {} }
    (fun e => renderTemplate { base := {} } e webDocument) {} (by decide) rfl (by decide) rfl
    (by simp)

end Target

end Stencil
