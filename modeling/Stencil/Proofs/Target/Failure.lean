import Stencil.Proofs.Target.Generation

namespace Stencil

theorem filesOf_error {render : TemplateFile → Act Text} {polish : Text → Text → Text}
    {templates : List TemplateFile} {s : Session} {cause : Fault}
    (h : ((filesOf render polish templates).run s).1 = .error cause) :
    ∃ path c, cause = .render path c := by
  rcases renders_or_fails render templates s with
    ⟨texts, s₁, hrenders⟩ | ⟨before, f, after, texts, s₁, c, s₂, rfl, hbefore, hf⟩
  · rw [filesOf_run hrenders] at h
    cases h
  · rw [filesOf_run_error hbefore hf] at h
    exact ⟨f.path, c, (Except.error.inj h).symm⟩

namespace Target

/-- Kinds that lead to a general fault: one that is neither missing nor a text, and one whose directory
has a name that is too long. -/
inductive Escapes (t : Target) (d : Disk) (kind : Value) : GeneralFault → Prop
  | noText (truthy : kind.truthy = true) (text : kind.asText? = none) : Escapes t d kind .noAttribute
  | tooLong {k : Text} (text : kind.asText? = some k) (name : (Kind.parse k).fullName ≠ [])
    (find : d.find (t.templatesPath.child (Kind.parse k).fullName) = .error .tooLong) :
    Escapes t d kind .osError

/-- A kind has a directory with templates. -/
def HasTemplates (t : Target) (d : Disk) (kind : Value) : Prop :=
  ∃ k, kind.asText? = some k ∧ (Kind.parse k).fullName ≠ [] ∧
    d.isDirectory (t.templatesPath.child (Kind.parse k).fullName) = .ok true

variable {t : Target} {d : Disk} {kind data context : Value} {cause : Fault} {c : GeneralFault}
  {s : Session} {render : Engine → TemplateFile → Act Text}

theorem isDirectory_error_iff {p : Path} :
    d.isDirectory p = .error cause ↔
      d.find p = .error .tooLong ∧ cause = Disk.Obstacle.tooLong.fault := by
  rw [Disk.isDirectory]
  cases d.find p with
  | ok n => simp
  | error o => cases o <;> simp [eq_comm]

theorem Escapes.templatesFor_eq (h : t.Escapes d kind c) :
    t.templatesFor d kind = .error (.general c) := by
  cases h with
  | noText truthy text =>
    simp [templatesFor, kindDirectory, truthy, text, bind, Except.bind, throw, throwThe,
      MonadExceptOf.throw]
  | @tooLong k text name find =>
    have hdir := isDirectory_error_iff.mpr ⟨find, rfl⟩
    rw [templatesFor, kindDirectory_eq text name]
    simp only [bind, Except.bind, hdir]
    rfl

theorem kindDirectory_cases (kind : Value) :
    (∃ k, kind.asText? = some k ∧ (Kind.parse k).fullName ≠ []) ∨
      (∃ c, kindDirectory kind = .error (.config c)) ∨
      kind.truthy = true ∧ kind.asText? = none := by
  by_cases htruthy : kind.truthy = true
  · cases htext : kind.asText? with
    | none => exact Or.inr (Or.inr ⟨htruthy, rfl⟩)
    | some k =>
      by_cases hname : (Kind.parse k).fullName = []
      · refine Or.inr (Or.inl ⟨.noTemplate kind.display, ?_⟩)
        simp only [kindDirectory, htruthy, htext, hname]
        rfl
      · exact Or.inl ⟨k, rfl, hname⟩
  · refine Or.inr (Or.inl ⟨.noTemplate kind.display, ?_⟩)
    simp only [kindDirectory, Bool.eq_false_iff.mpr htruthy]
    rfl

theorem templatesFor_cases (t : Target) (d : Disk) (kind : Value) :
    t.HasTemplates d kind ∨ (∃ c, t.templatesFor d kind = .error (.config c)) ∨
      ∃ c, t.Escapes d kind c := by
  rcases kindDirectory_cases kind with ⟨k, htext, hname⟩ | ⟨c, hmissing⟩ | ⟨htruthy, htext⟩
  · cases hdir : d.isDirectory (t.templatesPath.child (Kind.parse k).fullName) with
    | ok found =>
      cases found with
      | true => exact Or.inl ⟨k, htext, hname, hdir⟩
      | false =>
        refine Or.inr (Or.inl ⟨.noTemplateDirectory
          (t.templatesPath.child (Kind.parse k).fullName).toText kind.display, ?_⟩)
        rw [templatesFor, kindDirectory_eq htext hname]
        simp only [bind, Except.bind, hdir]
        rfl
    | error cause =>
      have hfind := (isDirectory_error_iff.mp hdir).1
      exact Or.inr (Or.inr ⟨.osError, .tooLong htext hname hfind⟩)
  · refine Or.inr (Or.inl ⟨c, ?_⟩)
    rw [templatesFor, hmissing]
    rfl
  · exact Or.inr (Or.inr ⟨.noAttribute, .noText htruthy htext⟩)

theorem generateBy_run_error
    (h : t.templatesFor d ((s.store.resolve data).get "kind") = .error cause) :
    (t.generateBy render d data context).run s = (.error cause, s) := by
  rw [generateBy, Act.run_bind_ok _ (run_kindOf data s), h]
  exact Act.run_bind_error _ (Act.run_ofExcept _ s)

/-- Without a context document nothing is generated, whatever the way to render a template. -/
theorem HasTemplates.generateBy_run_noContext
    (has : t.HasTemplates d ((s.store.resolve data).get "kind")) :
    ∃ c, ∀ render, (t.generateBy render d data .null).run s = (.error (.config c), s) := by
  obtain ⟨k, hkind, hname, hdir⟩ := has
  obtain ⟨c, hmissing⟩ : ∃ c, Engine.expectDocuments data .null = .error (.config c) := by
    cases data <;> exact ⟨_, rfl⟩
  refine ⟨c, fun render => ?_⟩
  rw [generateBy, Act.run_bind_ok _ (run_kindOf data s), templatesFor_eq t hkind hname hdir,
    Act.run_bind_ok _ (Act.run_ofExcept _ s), hmissing, Act.run_bind_error _ (Act.run_ofExcept _ s)]

/-- With a directory for the kind, what fails is a missing document or a template. -/
theorem HasTemplates.generateBy_error (tree : d.IsTree)
    (has : t.HasTemplates d ((s.store.resolve data).get "kind"))
    (h : ((t.generateBy render d data context).run s).1 = .error cause) :
    (∃ c, cause = .config c) ∨ ∃ path c, cause = .render path c := by
  by_cases hcontext : context = .null
  · subst hcontext
    obtain ⟨c, hrun⟩ := has.generateBy_run_noContext
    rw [hrun] at h
    exact Or.inl ⟨c, (Except.error.inj h).symm⟩
  · obtain ⟨k, hkind, hname, hdir⟩ := has
    obtain ⟨root, hroot, hrootdir⟩ :=
      Disk.isDirectory_iff.mp (isDirectory_templatesPath t hname hdir)
    obtain ⟨l, hlocate, hl⟩ := Disk.isDirectory_iff.mp hdir
    have hall := TemplateFile.below_eq tree hroot hrootdir
    have hown := TemplateFile.below_eq tree hlocate hl
    rw [run_generateBy t render s hkind hname hdir hcontext hall hown] at h
    exact Or.inr (filesOf_error h)

/-- A generation that fails does so with a fault of the configuration or of a template, whatever the way
to render one, except for kinds that lead to general faults, and for these it always fails with them.

This is about what the library does itself. A whole path that is longer than a file system takes, a
directory that must not be looked into and data that nests deeper than it can be copied are left out,
and each of them leads to a further fault that is neither of the two. -/
theorem generate_fails (t : Target) (render : Engine → TemplateFile → Act Text) (tree : d.IsTree)
    (s : Session) (data context : Value) :
    (∀ cause, ((t.generateBy render d data context).run s).1 = .error cause →
      (∃ c, cause = .config c) ∨ (∃ path c, cause = .render path c) ∨
        ∃ c, cause = .general c ∧ t.Escapes d ((s.store.resolve data).get "kind") c) ∧
    ∀ c, t.Escapes d ((s.store.resolve data).get "kind") c →
      (t.generateBy render d data context).run s = (.error (.general c), s) := by
  refine ⟨fun cause h => ?_, fun c hescapes => generateBy_run_error hescapes.templatesFor_eq⟩
  rcases templatesFor_cases t d ((s.store.resolve data).get "kind") with
    has | ⟨c, hmissing⟩ | ⟨c, hescapes⟩
  · rcases has.generateBy_error tree h with hconfig | hrender
    · exact Or.inl hconfig
    · exact Or.inr (Or.inl hrender)
  · rw [generateBy_run_error hmissing] at h
    exact Or.inl ⟨c, (Except.error.inj h).symm⟩
  · rw [generateBy_run_error hescapes.templatesFor_eq] at h
    exact Or.inr (Or.inr ⟨c, (Except.error.inj h).symm, hescapes⟩)

/-- A document whose kind is a number, and one whose kind has a name of 256 characters. -/
def oddDocuments : Value × Value :=
  (.dict [(.text "kind", .int 5)], .dict [(.text "kind", .text ("acme/" ++ List.replicate 256 'w'))])

set_option maxRecDepth 4000 in
theorem generate_fails_oddDocuments :
    kindsDisk.IsTree ∧
      (generate { base := {} } kindsDisk oddDocuments.1 (.dict [])).run {} =
        (.error (.general .noAttribute), {}) ∧
      (generate { base := {} } kindsDisk oddDocuments.2 (.dict [])).run {} =
        (.error (.general .osError), {}) := by
  have tree : kindsDisk.IsTree := by decide
  refine ⟨tree, (generate_fails _ _ tree {} _ _).2 _ (.noText rfl rfl),
    (generate_fails _ _ tree {} _ _).2 _ (.tooLong rfl ?_ ?_)⟩
  · decide +kernel
  · decide +kernel

/-- Callers that catch the library's own faults do not catch those of every generation. -/
theorem generate_fault_not_own :
    ¬ ∀ cause, ((generate { base := {} } kindsDisk oddDocuments.1 (.dict [])).run {}).1 =
      .error cause → cause.isOwn = true := by
  intro own
  have hresult : ((generate { base := {} } kindsDisk oddDocuments.1 (.dict [])).run {}).1 =
      .error (.general .noAttribute) := rfl
  exact absurd (own _ hresult) (by decide)

end Target

end Stencil
