import Stencil.Proofs.Engine.Excerpt
import Stencil.Proofs.Target.Generation
import Stencil.Proofs.Template.Execution

namespace Stencil

open Act (Mirrors)

/-- The files of templates in order, each of them rendered in the same session. -/
def filesAlone (render : TemplateFile → Act Text) (polish : Text → Text → Text) (s : Session) :
    List TemplateFile → Except Fault (List GeneratedFile)
  | [] => .ok []
  | f :: templates => do
    let text ← ((f.blaming (render f)).run s).1
    return splitFiles f.filename text polish ++ (← filesAlone render polish s templates)

/-- The run lemma: where each template gives what it gives alone and leaves a part as it is, so do
all of them in order. -/
theorem filesOf_run_alone {render : TemplateFile → Act Text} {polish : Text → Text → Text}
    {part : List Nat} {s : Session} {own : List TemplateFile}
    (step : ∀ f ∈ own, ∀ s', s.Agrees part s' →
      ((render f).run s').1 = ((render f).run s).1 ∧ s.Agrees part ((render f).run s').2)
    {s' : Session} (h : s.Agrees part s') :
    ((filesOf render polish own).run s').1 = filesAlone render polish s own ∧
      s.Agrees part ((filesOf render polish own).run s').2 := by
  induction own generalizing s' with
  | nil => exact ⟨rfl, h⟩
  | cons f templates ih =>
    obtain ⟨heq, hkept⟩ := step f List.mem_cons_self s' h
    rcases hs : (render f).run s with ⟨cause | text, s₁⟩ <;>
      rcases hs' : (render f).run s' with ⟨cause' | text', s₁'⟩ <;>
      simp only [hs, hs', reduceCtorEq, Except.error.injEq, Except.ok.injEq] at heq hkept
    · subst heq
      rw [filesAlone, run_blaming_error hs]
      rw [show (filesOf render polish (f :: templates)).run s' =
        (.error (.render f.path cause'), s₁') from Act.run_bind_error _ (run_blaming_error hs')]
      exact ⟨rfl, hkept⟩
    · subst heq
      have hreported : s.Agrees part (s₁'.reporting text') := ⟨hkept.store, hkept.switches⟩
      obtain ⟨hrest, hleft⟩ := ih (fun g hg => step g (List.mem_cons_of_mem f hg)) hreported
      rw [filesAlone, run_blaming_ok hs, filesOf_cons hs', Act.run_bind]
      rcases hfiles : (filesOf render polish templates).run (s₁'.reporting text') with
        ⟨cause | files, s₂⟩ <;> rw [hfiles] at hrest hleft <;> rw [← hrest]
      · exact ⟨rfl, hleft⟩
      · exact ⟨rfl, hleft⟩

/-- Renders a template of a template language with the value of an excerpt. -/
def TemplateFile.renderPasted (f : TemplateFile) (language : Renderer) (e : Engine) (x : Excerpt)
    (options : Value) : Act Text := do
  e.renderTextBy language f.source (← Act.paste x) options

theorem TemplateFile.mirrors_renderPasted {ρ : Nat → Nat} (inj : Function.Injective ρ) {e : Engine}
    (blind : ∀ p ∈ e.parser, SourceParser.IsBlind p) {language : Value → Renderer} {f : TemplateFile}
    (hf : Renderer.IsBlindOn language e.partials f.source) {x : Excerpt} (plain : x.IsPlain)
    (kept options : Value) :
    Mirrors ρ id (f.renderPasted (language kept) e x options)
      (f.renderPasted (language (kept.rename ρ)) (e.rename ρ) x (options.rename ρ)) :=
  (Mirrors.paste plain).bind fun _ =>
    hf inj (Engine.mirrored_surroundings inj fun p hp => (blind p hp).to inj) rfl kept _

namespace Target

/-- What a call can reach in a store: `held` are the cells of the data document, and `shared` those
of the context, of the options and of what the template language keeps. -/
structure Reaches (t : Target) (s : Store) (data context kept : Value) (held shared : List Nat) :
    Prop where
  heldClosed : s.IsClosed held
  sharedClosed : s.IsClosed shared
  dataInside : data.refs ⊆ held
  dataPlain : (s.excerpt data).IsPlain
  contextInside : context.refs ⊆ shared
  optionsInside : t.options.refs ⊆ shared
  keptInside : kept.refs ⊆ shared

section

variable {t : Target} {e : Engine} {s s' : Session} {data kept : Value} {held shared : List Nat}
  {language : Value → Renderer}

/-- The step lemma: a template that leaves what is shared as it is leaves the data document as it is
as well, and gives the same text wherever both documents and the options are the same. -/
theorem renderTemplateBy_run_alone (reaches : t.Reaches s.store data e.context kept held shared)
    (blind : ∀ p ∈ e.parser, SourceParser.IsBlind p) {f : TemplateFile}
    (hf : Renderer.IsBlindOn language e.partials f.source)
    (calm : s.store.Agrees shared
      ((t.renderTemplateBy (language kept) e data f).run s).2.store)
    (h : s.Agrees (held ++ shared) s') :
    ((t.renderTemplateBy (language kept) e data f).run s').1 =
        ((t.renderTemplateBy (language kept) e data f).run s).1 ∧
      s.Agrees (held ++ shared) ((t.renderTemplateBy (language kept) e data f).run s').2 := by
  have hheld : s.store.Agrees held s'.store := fun c hc => h.store c (List.mem_append_left _ hc)
  have hshared : s.Agrees shared s' :=
    ⟨fun c hc => h.store c (List.mem_append_right _ hc), h.switches⟩
  -- Both runs copy the same excerpt, and an excerpt refers to nothing in either store.
  have hrun (s : Session) : (t.renderTemplateBy (language kept) e data f).run s =
      (f.renderPasted (language kept) e (s.store.excerpt data) t.options).run s := rfl
  have hcopy : s'.store.excerpt data = s.store.excerpt data :=
    reaches.heldClosed.excerpt_eq hheld reaches.dataInside
  have hback {v : Value} (size : Nat) (hv : v.refs ⊆ shared) :
      (v.rename shared.idxOf).rename (Store.place shared size) = v :=
    v.rename_rename_cancel fun c hc => Store.place_idxOf size (hv hc)
  have hmirrors (size : Nat) (inj : Function.Injective (Store.place shared size)) :
      Mirrors (Store.place shared size) id
        (f.renderPasted (language (kept.rename shared.idxOf)) (e.rename shared.idxOf)
          (s.store.excerpt data) (t.options.rename shared.idxOf))
        (f.renderPasted (language kept) e (s.store.excerpt data) t.options) := by
    have hengine : (e.rename shared.idxOf).rename (Store.place shared size) = e := by
      rw [Engine.rename, Engine.rename, hback size reaches.contextInside]
    have hpasted := f.mirrors_renderPasted inj (e := e.rename shared.idxOf) blind hf
      reaches.dataPlain (kept.rename shared.idxOf) (t.options.rename shared.idxOf)
    rwa [hengine, hback size reaches.keptInside, hback size reaches.optionsInside] at hpasted
  obtain ⟨heq, hswitches, hkept, hother⟩ :=
    Act.run_eq_of_mirrors reaches.sharedClosed hmirrors hshared
  rw [hrun] at calm
  rw [hrun, hrun, hcopy]
  refine ⟨heq, fun c hc => ?_, hswitches⟩
  rw [← h.store c hc]
  -- What is not shared can be reached by its data document only, of which the template has a copy.
  by_cases hc' : c ∈ shared
  · exact hkept calm c hc'
  · have hmem := (List.mem_append.mp hc).resolve_right hc'
    exact hother c ((reaches.heldClosed.of_agrees hheld).isPath.2 c hmem) hc'

end

/-- Templates of any template language that leave the context, the options and what the language keeps
between renderings as they are give what each of them gives alone, in every session where these and
the data document are the same, and leave such a session again, so that later generations give the
same. What they do to their copies of the data document is not seen by the others.

The language is a parameter, as is its parser of source blocks. Of both it is known only that they do
not tell cells by their names, the language on the templates of the kind: one that shows an address or
draws something at random is left out. What a language keeps and a template can see, such as the names
of a template that others have imported, is in `kept`, and a template that changes it is not calm. -/
theorem generate_eq_filesAlone (t : Target) (language : Value → Renderer) {d : Disk}
    {data context kept : Value} {k : Text} {own all : List TemplateFile} {s s' : Session}
    {held shared : List Nat}
    (hkind : ((s.store.resolve data).get "kind").asText? = some k)
    (hname : (Kind.parse k).fullName ≠ [])
    (hdir : d.isDirectory (t.templatesPath.child (Kind.parse k).fullName) = .ok true)
    (hcontext : context ≠ .null) (hall : TemplateFile.below d t.templatesPath = .ok all)
    (hown : TemplateFile.below d (t.templatesPath.child (Kind.parse k).fullName) = .ok own)
    (blind : ∀ p ∈ t.parser, SourceParser.IsBlind p)
    (hlanguage : ∀ f ∈ own, Renderer.IsBlindOn language (t.engineWith context all).partials f.source)
    (reaches : t.Reaches s.store data context kept held shared)
    (calm : ∀ f ∈ own, s.store.Agrees shared
      ((t.renderTemplateBy (language kept) (t.engineWith context all) data f).run s).2.store)
    (h : s.Agrees (held ++ shared) s') :
    ((t.generateBy (fun e => t.renderTemplateBy (language kept) e data) d data context).run s').1 =
        filesAlone (t.renderTemplateBy (language kept) (t.engineWith context all) data) t.polish s
          own ∧
      s.Agrees (held ++ shared)
        ((t.generateBy (fun e => t.renderTemplateBy (language kept) e data) d data context).run
          s').2 := by
  have hdata : s'.store.resolve data = s.store.resolve data :=
    reaches.heldClosed.resolve_eq (fun c hc => h.store c (List.mem_append_left _ hc))
      reaches.dataInside
  rw [run_generateBy t (fun e => t.renderTemplateBy (language kept) e data) s' (hdata ▸ hkind) hname
    hdir hcontext hall hown]
  exact filesOf_run_alone (fun f hf s' hs' =>
    renderTemplateBy_run_alone reaches blind (hlanguage f hf) (calm f hf) hs') h

/-- Shows a field of the options and of the context. -/
def showing : Text :=
  "\x7b\x7b options.x \x7d\x7d\x7b\x7b context.x \x7d\x7d"

/-- Changes the data document, a list in it under one of its two keys, and shows the two fields and
the list under its other key. -/
def keeping : Text :=
  "\x7b% set _ = data.update(\x7b\"kind\": \"n\"\x7d) %\x7d" ++
    "\x7b% set _ = data.a.append(1) %\x7d" ++ showing ++ "\x7b\x7b data.b \x7d\x7d"

/-- Shows the two fields, the kind and the list. -/
def showingKind : Text :=
  showing ++ "\x7b\x7b data.kind \x7d\x7d\x7b\x7b data.b \x7d\x7d"

/-- Two templates of a kind. -/
def twoTemplates (first second : Text) : Disk where
  nodes := [(["templates"], .directory), (["templates", "acme"], .directory),
    (["templates", "acme", "web"], .directory),
    (["templates", "acme", "web", "a.txt"], .file (Text.encode first) 0o644),
    (["templates", "acme", "web", "b.txt"], .file (Text.encode second) 0o644)]

/-- A parser for source blocks that hold no code. -/
def emptyParser : SourceParser :=
  fun _ _ => .parsed (.list []) (.list [])

theorem isBlind_emptyParser : emptyParser.IsBlind :=
  fun _ _ _ _ => by simp [emptyParser, SourceOutcome.rename]

/-- A target in the working directory, with options in the store. -/
def sharingTarget : Target where
  base := {}
  options := .ref 2
  parser := some emptyParser

/-- A data document that holds one list twice, a context and options that templates can change. -/
def sharedSession : Session where
  store := ⟨#[.dict [(.text "kind", .text "acme/web"), (.text "a", .ref 3), (.text "b", .ref 3)],
    .dict [(.text "x", .text "c")], .dict [(.text "x", .text "o")], .list []]⟩

/-- The contents of generated files, and nothing for a failure. -/
def contentsOf : Except Fault (List GeneratedFile) → List Text
  | .ok files => files.map GeneratedFile.content
  | .error _ => []

/-- The context and the options hold what they hold in the session above. -/
def isKept (s : Session) : Bool :=
  match (s.store.cells[1]? : Option Cell), (s.store.cells[2]? : Option Cell) with
  | some (.dict [(.text name, .text c)]), some (.dict [(.text other, .text o)]) =>
    (name, c) = ("x".toList, "c".toList) && (other, o) = ("x".toList, "o".toList)
  | _, _ => false

theorem agrees_of_isKept {s : Session} (h : isKept s = true) :
    sharedSession.store.Agrees [1, 2] s.store := by
  unfold isKept at h
  split at h
  next hcontext hoptions =>
    simp only [Bool.and_eq_true, decide_eq_true_eq, Prod.mk.injEq] at h
    obtain ⟨⟨rfl, rfl⟩, rfl, rfl⟩ := h
    intro c hc
    rcases List.mem_pair.mp hc with rfl | rfl
    · exact hcontext
    · exact hoptions
  next => cases h

theorem reaches_sharedSession :
    sharingTarget.Reaches sharedSession.store (.ref 0) (.ref 1) .null [0, 3] [1, 2] where
  heldClosed := ⟨⟨by decide, by decide⟩, by decide⟩
  sharedClosed := ⟨⟨by decide, by decide⟩, by decide⟩
  dataInside := by decide
  dataPlain := ⟨by decide, by decide⟩
  contextInside := by decide
  optionsInside := by decide
  keptInside := by decide

/-- A template that changes its data document only: the next one does not see it, and neither does
the next generation. -/
theorem generate_keeping :
    contentsOf ((sharingTarget.generate (twoTemplates keeping showingKind) (.ref 0) (.ref 1)).run
        sharedSession).1 = ["oc[1]", "ocacme/web[]"] ∧
      ((sharingTarget.generate (twoTemplates keeping showingKind) (.ref 0) (.ref 1)).run
        ((sharingTarget.generate (twoTemplates keeping showingKind) (.ref 0) (.ref 1)).run
          sharedSession).2).1 =
      ((sharingTarget.generate (twoTemplates keeping showingKind) (.ref 0) (.ref 1)).run
        sharedSession).1 := by
  have tree : (twoTemplates keeping showingKind).IsTree := by decide
  have hall := TemplateFile.below_eq (l := ["templates"]) tree
    (show (twoTemplates keeping showingKind).locate sharingTarget.templatesPath = _ from rfl) rfl
  have hown := TemplateFile.below_eq (l := ["templates", "acme", "web"]) tree
    (show (twoTemplates keeping showingKind).locate
      (sharingTarget.templatesPath.child (Kind.parse "acme/web").fullName) = _ from rfl) rfl
  have alone {s' : Session} (h : sharedSession.Agrees ([0, 3] ++ [1, 2]) s') :=
    generate_eq_filesAlone sharingTarget (fun _ => Template.render) (k := "acme/web") (by decide)
      (by decide) rfl (by simp) hall hown (fun p hp => Option.some.inj hp ▸ isBlind_emptyParser)
      (fun f _ => Template.isBlindOn_render _ f.source) reaches_sharedSession
      (fun f hf => agrees_of_isKept (by revert f; decide +kernel)) h
  obtain ⟨hfirst, hleft⟩ := alone ⟨fun _ _ => rfl, rfl⟩
  exact ⟨by decide +kernel, (alone hleft).1.trans hfirst.symm⟩

/-- Shows the two fields and changes them. -/
def leaking : Text :=
  showing ++ "\x7b% set _ = options.update(\x7b\"x\": \"n\"\x7d) %\x7d" ++
    "\x7b% set _ = context.update(\x7b\"x\": \"n\"\x7d) %\x7d"

/-- The second template writes something else behind the first one than alone, and a second
generation writes something else than the first. -/
theorem generate_leaks :
    contentsOf ((filesOf (sharingTarget.renderTemplate { context := .ref 1 }
        (.ref 0)) keepBody [⟨"b.txt", "templates/acme/web/b.txt", showing⟩]).run
          sharedSession).1 = ["oc"] ∧
      contentsOf ((sharingTarget.generate (twoTemplates leaking showing) (.ref 0) (.ref 1)).run
        sharedSession).1 = ["oc", "nn"] ∧
      contentsOf ((sharingTarget.generate (twoTemplates leaking showing) (.ref 0) (.ref 1)).run
        ((sharingTarget.generate (twoTemplates leaking showing) (.ref 0) (.ref 1)).run
          sharedSession).2).1 = ["nn", "nn"] := by
  decide +kernel

end Target

end Stencil
