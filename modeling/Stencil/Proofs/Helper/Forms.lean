import Stencil.Helper.Table
import Stencil.Proofs.Engine.Session
import Stencil.Proofs.Reference.Discovery

namespace Stencil

/-- A block that makes texts of its items, leaves every session as it is, and does not fail. -/
def Block.Makes (block : Block) (out : List Value → Session → Text) : Prop :=
  ∀ items s, (block items).run s = (.ok (out items s), s)

namespace Act

theorem run_textOf (v : Value) (s : Session) :
    (textOf v).run s = (.ok (s.store.resolve v).displayPresent, s) := rfl

end Act

namespace Helper

/-- What the block form of a helper makes of the value form: the block for each item, on lines of
their own or with a given text between neighbours; the block for each name; the block once if the
value is true. -/
inductive Form
  | lines
  | joined
  | names
  | flag
  deriving DecidableEq

/-- The item that a block gets for a name. -/
def nameItem (name : Text) : Value :=
  .dict [(.text "name", .text name)]

/-- Collects what a block makes of a name. -/
def report (block : Block) (name : Text) : StateT (List Text) Act Unit := do
  let t ← block [nameItem name]
  modify (· ++ [t])

/-- The text of the block form for a value of the value form. -/
inductive Form.Shows (out : List Value → Text) (given : Text) : Form → Value → Text → Prop
  | lines (vs : List Value) :
    Shows out given .lines (.list vs) (Text.join "\n" (vs.map fun v => out [v]))
  | joined (vs : List Value) :
    Shows out given .joined (.list vs) (Text.join given (vs.map fun v => out [v]))
  | names (ns : List Text) :
    Shows out given .names (Value.ofTexts ns) (ns.map fun n => out [nameItem n]).flatten
  | flag (b : Bool) : Shows out given .flag (.bool b) (if b then out [] else [])

/-- Runs of the two forms: both fail with the same fault, or the second one gives the text for the
value of the first one. They leave the same session. -/
inductive Answers (form : Form) (out : List Value → Session → Text) (given : Text) :
    Except Fault Value × Session → Except Fault Value × Session → Prop
  | failed (f : Fault) (s : Session) : Answers form out given (.error f, s) (.error f, s)
  | made {v : Value} {t : Text} (s : Session)
    (shows : form.Shows (fun items => out items s) given v t) :
    Answers form out given (.ok v, s) (.ok (.markup t), s)

variable {form : Form} {block : Block} {out : List Value → Session → Text} {given : Text}
  {s : Session}

theorem Answers.bind {α : Type} {x : Act α} {f g : α → Act Value}
    (h : ∀ y s₁, x.run s = (.ok y, s₁) → Answers form out given ((f y).run s₁) ((g y).run s₁)) :
    Answers form out given ((x >>= f).run s) ((x >>= g).run s) := by
  rw [Act.run_bind, Act.run_bind]
  rcases hx : x.run s with ⟨cause | y, s₁⟩
  · exact .failed cause s₁
  · exact h y s₁ hx

section

variable (makes : block.Makes out)
include makes

theorem answers_blockOrFlag (condition : Bool) (s : Session) :
    Answers .flag out given ((blockOrFlag condition none).run s)
      ((blockOrFlag condition (some block)).run s) := by
  cases condition with
  | true =>
    have hblock : (blockOrFlag true (some block)).run s = (.ok (.markup (out [] s)), s) := by
      rw [blockOrFlag, if_pos rfl, Act.run_bind_ok _ (makes [] s), Act.run_pure]
    rw [hblock]
    exact .made s (.flag true)
  | false => exact .made s (.flag false)

theorem answers_blockOrItems {joiner : Text} {items : List Value}
    (hshows : ∀ show' : List Value → Text,
      form.Shows show' given (.list items) (Text.join joiner (items.map fun v => show' [v])))
    (s : Session) :
    Answers form out given ((blockOrItems joiner items none).run s)
      ((blockOrItems joiner items (some block)).run s) := by
  have hitems := Act.run_mapM_of_forall (fun v => makes [v] s) items
  have hblock : (blockOrItems joiner items (some block)).run s =
      (.ok (.markup (Text.join joiner (items.map fun v => out [v] s))), s) := by
    rw [blockOrItems, Act.run_bind_ok _ hitems, Act.run_pure]
  rw [hblock]
  exact .made s (hshows fun items => out items s)

theorem answers_eachMatching (e : Engine) (collection request : Text) (s : Session) :
    Answers .lines out given ((eachMatching e collection request none).run s)
      ((eachMatching e collection request (some block)).run s) :=
  .bind fun items s₁ _ => answers_blockOrItems makes (fun _ => .lines items) s₁

theorem answers_eachMatching_joined (e : Engine) (collection request joiner : Text) (s : Session) :
    Answers .joined out joiner ((eachMatching e collection request none joiner).run s)
      ((eachMatching e collection request (some block) joiner).run s) :=
  .bind fun items s₁ _ => answers_blockOrItems makes (fun _ => .joined items) s₁

theorem answers_ifMatching (e : Engine) (collection request : Text) (s : Session) :
    Answers .flag out given ((ifMatching e collection request none).run s)
      ((ifMatching e collection request (some block)).run s) :=
  .bind fun _ _ _ => .bind fun _ s₂ _ => answers_blockOrFlag makes _ s₂

theorem answers_ifUsingAny (e : Engine) (requests : List Text) (s : Session) :
    Answers .flag out given ((ifUsingAny e requests none).run s)
      ((ifUsingAny e requests (some block)).run s) :=
  .bind fun _ _ _ => .bind fun _ _ _ => .bind fun _ s₃ _ => answers_blockOrFlag makes _ s₃

theorem run_report (name : Text) (rendered : List Text) (s : Session) :
    ((report block name).run rendered).run s =
      (.ok ((), rendered ++ [out [nameItem name] s]), s) := by
  rw [report, StateT.run_bind, StateT.run_monadLift, monadLift_self, bind_assoc,
    Act.run_bind_ok _ (makes [nameItem name] s)]
  rfl

/-- Names that are reported one after the other are rendered in this order. -/
theorem run_forM_report (names rendered : List Text) (s : Session) :
    ((names.forM (report block)).run rendered).run s =
      (.ok ((), rendered ++ names.map fun name => out [nameItem name] s), s) := by
  induction names generalizing rendered with
  | nil => simp
  | cons name names ih =>
    have hsteps : (name :: names).forM (report block) =
        report block name >>= fun _ => names.forM (report block) := rfl
    rw [hsteps, StateT.run_bind, Act.run_bind_ok _ (run_report makes name rendered s), ih]
    simp

theorem run_discover_report (resolver : Resolver) (whole : Value) (s : Session) :
    ((Reference.discover resolver.accepts (report block) whole []).run []).run s =
      (.ok (resolver.resolve whole, (resolver.resolve whole).map fun name =>
        out [nameItem name] s), s) := by
  rw [Reference.discover_eq_report, ← Resolver.resolve_eq, StateT.run_bind,
    Act.run_bind_ok _ (run_forM_report makes (resolver.resolve whole) [] s)]
  rfl

theorem answers_eachTypeReference (e : Engine) (v : Value) (includeAll : Bool)
    (allowed : List Value) (s : Session) :
    Answers .names out given ((eachTypeReference e v includeAll allowed none).run s)
      ((eachTypeReference e v includeAll allowed (some block)).run s) := by
  refine .bind fun context s₁ _ => .bind fun resolver s₂ _ => .bind fun whole s₃ _ => ?_
  have hmade : Answers .names out given
      (.ok (Value.ofTexts (resolver.resolve whole)), s₃)
      (.ok (.markup ((resolver.resolve whole).map fun name => out [nameItem name] s₃).flatten),
        s₃) :=
    .made s₃ (.names _)
  have hblock : ((Reference.discover resolver.accepts (report block) whole []).run [] >>=
      fun found => (pure (Value.markup found.2.flatten) : Act Value)).run s₃ =
      (.ok (.markup ((resolver.resolve whole).map fun name => out [nameItem name] s₃).flatten),
        s₃) := by
    rw [Act.run_bind_ok _ (run_discover_report makes resolver whole s₃), Act.run_pure]
  rw [← hblock] at hmade
  exact hmade

theorem answers_ifTypeReference (v : Value) (name : Text) (s : Session) :
    Answers .flag out given ((ifTypeReference v name none).run s)
      ((ifTypeReference v name (some block)).run s) :=
  .bind fun _ s₁ _ => answers_blockOrFlag makes _ s₁

theorem answers_ifValueType (v : Value) (s : Session) :
    Answers .flag out given ((ifValueType v none).run s) ((ifValueType v (some block)).run s) :=
  .bind fun _ s₁ _ => answers_blockOrFlag makes _ s₁

theorem answers_eachEntity (e : Engine) (options : Entries)
    (source namespaceName validTypes data : Value) (s : Session) :
    Answers .lines out given
      ((eachEntity e options source namespaceName validTypes data none).run s)
      ((eachEntity e options source namespaceName validTypes data (some block)).run s) := by
  refine .bind fun looked s₁ _ => .bind fun hasCode s₂ _ => ?_
  cases hasCode with
  | false => exact .made s₂ (.lines [])
  | true =>
    refine .bind fun base s₃ _ => .bind fun looked s₄ _ => .bind fun types s₅ _ => ?_
    refine .bind fun entities s₆ _ => .bind fun session s₇ _ => ?_
    exact answers_blockOrItems makes (fun _ => .lines _) s₇

theorem answers_ifEntityReference (entity : Value) (name : Text) (s : Session) :
    Answers .flag out given ((ifEntityReference entity name none).run s)
      ((ifEntityReference entity name (some block)).run s) :=
  .bind fun _ _ _ => .bind fun _ s₂ _ => answers_blockOrFlag makes _ s₂

theorem answers_ifRendered (entity : Value) (s : Session) :
    Answers .flag out given ((ifRendered entity none).run s)
      ((ifRendered entity (some block)).run s) := by
  refine .bind fun whole s₁ _ => ?_
  dsimp only
  split
  next => exact .bind fun native s₂ _ => answers_blockOrFlag makes (!native) s₂
  next => exact answers_blockOrFlag makes (!false) s₁

end

/-- No argument of a call stands for the block. -/
structure Arguments.LeavesBlock (a : Arguments) (sig : Signature) : Prop where
  block : a.block = none
  named : a.named.lookup "caller".toList = none
  values : ∀ p ∈ sig.parameters.take a.values.length, p.1 ≠ "caller".toList

namespace Signature

variable {named filled : List (Text × Value)} {parameters : List (Text × Option Value)}
  {values rest : List Value} {name : Text}

/-- The name of the block is of no account if no value is given for it. -/
theorem fill_blockName (h : ∀ p ∈ parameters.take values.length, p.1 ≠ name) :
    fill named (some name) parameters values = fill named none parameters values := by
  induction parameters generalizing values with
  | nil => rfl
  | cons p parameters ih =>
    obtain ⟨other, default⟩ := p
    cases values with
    | nil =>
      have hrest := @ih [] (by simp)
      cases hgiven : named.lookup other <;> cases default <;>
        simp only [fill, hgiven, hrest]
    | cons v values =>
      have hother : other ≠ name := h (other, default) (by simp)
      have hrest := @ih values fun q hq => h q (by simp [hq])
      have hblock : decide (some name = some other) = decide ((none : Option Text) = some other) := by
        rw [decide_eq_false fun h => hother (Option.some.inj h).symm, decide_eq_false (by simp)]
      simp only [fill, hrest, hblock]

theorem eq_of_met {entry : Text × Value} {x : Except Fault (List (Text × Value) × List Value)}
    (h : (do
      let (filled, rest) ← x
      return (entry :: filled, rest)) = .ok (filled, rest)) :
    ∃ others, filled = entry :: others ∧ x = .ok (others, rest) := by
  cases x with
  | error f => cases h
  | ok met =>
    cases h
    exact ⟨met.1, rfl, rfl⟩

/-- The first parameter takes the first value, or what is given by its name, or its default. -/
theorem fill_cons_eq_ok {default : Option Value}
    (h : fill named none ((name, default) :: parameters) values = .ok (filled, rest)) :
    ∃ v others, filled = (name, v) :: others ∧
      fill named none parameters values.tail = .ok (others, rest) ∧
      (values = [] → named.lookup name = some v ∨ named.lookup name = none ∧ default = some v) := by
  cases values with
  | cons v values =>
    rw [fill] at h
    split at h
    next => cases h
    next =>
      obtain ⟨others, hfilled, hrest⟩ := eq_of_met h
      exact ⟨v, others, hfilled, hrest, fun hnil => absurd hnil (List.cons_ne_nil v values)⟩
  | nil =>
    cases hgiven : named.lookup name with
    | some v =>
      simp only [fill, hgiven] at h
      obtain ⟨others, hfilled, hrest⟩ := eq_of_met h
      exact ⟨v, others, hfilled, hrest, fun _ => Or.inl rfl⟩
    | none =>
      cases default with
      | none =>
        simp only [fill, hgiven] at h
        cases h
      | some v =>
        simp only [fill, hgiven] at h
        obtain ⟨others, hfilled, hrest⟩ := eq_of_met h
        exact ⟨v, others, hfilled, hrest, fun _ => Or.inr ⟨rfl, rfl⟩⟩

/-- A parameter for which nothing is given has its default value. -/
theorem lookup_of_fill {v : Value} (hnamed : named.lookup name = none)
    (hdefault : parameters.lookup name = some (some v))
    (hvalues : ∀ p ∈ parameters.take values.length, p.1 ≠ name)
    (h : fill named none parameters values = .ok (filled, rest)) :
    filled.lookup name = some v := by
  induction parameters generalizing values filled with
  | nil => simp at hdefault
  | cons p parameters ih =>
    obtain ⟨other, default⟩ := p
    obtain ⟨w, others, rfl, hrest, hfirst⟩ := fill_cons_eq_ok h
    by_cases hname : name = other
    · subst hname
      rw [List.lookup_cons_self, Option.some.injEq] at hdefault
      have hnil : values = [] := by
        cases values with
        | nil => rfl
        | cons u us => exact absurd rfl (hvalues (name, default) (by simp))
      rcases hfirst hnil with hgiven | ⟨-, hw⟩
      · simp [hnamed] at hgiven
      · rw [List.lookup_cons_self, ← hw, hdefault]
    · have hskip : (name == other) = false := beq_eq_false_iff_ne.mpr hname
      simp only [List.lookup_cons, hskip] at hdefault ⊢
      refine ih hdefault (fun q hq => ?_) hrest
      cases values with
      | nil => simp at hq
      | cons u us => exact hvalues q (by simpa using Or.inr hq)

variable {sig : Signature} {a : Arguments}

/-- A call without a block and the same call with one are refused for the same reason, or meet the
parameters with the same values. -/
theorem bind_withBlock (free : a.LeavesBlock sig)
    (hcaller : sig.parameters.lookup "caller".toList = some (some .null)) (block : Block) :
    (∃ f, sig.bind a = .error f ∧ sig.bind { a with block := some block } = .error f) ∨
      ∃ b, sig.bind a = .ok b ∧ b.block = none ∧ b.get "caller" = .null ∧
        sig.bind { a with block := some block } = .ok { b with block := some block } := by
  have hfill : fill a.named (some "caller".toList) sig.parameters a.values =
      fill a.named none sig.parameters a.values := fill_blockName free.values
  have hparameter : (!(sig.parameters.lookup "caller".toList).isSome) = false := by
    rw [hcaller]
    rfl
  unfold Signature.bind
  simp only [free.block, hparameter, Option.map_none, Option.map_some, hfill, Bool.and_false,
    Bool.false_eq_true, if_false]
  cases hmet : fill a.named none sig.parameters a.values with
  | error f => exact Or.inl ⟨f, rfl, rfl⟩
  | ok met =>
    obtain ⟨filled, rest⟩ := met
    have hget : filled.lookup "caller".toList = some .null :=
      lookup_of_fill free.named hcaller free.values hmet
    simp only [Bind.bind, Except.bind]
    split
    next => exact Or.inl ⟨_, rfl, rfl⟩
    next =>
      split
      next => exact Or.inl ⟨_, rfl, rfl⟩
      next => exact Or.inr ⟨_, rfl, rfl, by rw [Bound.get, hget]; rfl, rfl⟩

end Signature

/-- A helper has a block, which may be left out, and its two forms answer each other. -/
structure HasForm (form : Form) (h : Helper) : Prop where
  caller : h.signature.parameters.lookup "caller".toList = some (some .null)
  answers : ∀ {block : Block} {out : List Value → Session → Text}, block.Makes out →
    ∀ (e : Engine) (b : Bound) (data : Value) (s : Session),
      Answers form out (s.store.resolve (b.get "joiner")).displayPresent
        ((h.run e { b with block := none } data).run s)
        ((h.run e { b with block := some block } data).run s)

/-- The text that the arguments give to a helper as its joiner. -/
def joinerOf (h : Helper) (a : Arguments) (s : Session) : Text :=
  match h.signature.bind a with
  | .ok b => (s.store.resolve (b.get "joiner")).displayPresent
  | .error _ => []

theorem HasForm.answers_call {h : Helper} (has : h.HasForm form) (makes : block.Makes out)
    (e : Engine) (data : Value) {a : Arguments} (free : a.LeavesBlock h.signature) (s : Session) :
    Answers form out (h.joinerOf a s) ((call e data h a).run s)
      ((call e data h { a with block := some block }).run s) := by
  rcases Signature.bind_withBlock free has.caller block with
    ⟨f, hnone, hsome⟩ | ⟨b, hnone, hblock, hcaller, hsome⟩
  · rw [call, call, hnone, hsome]
    exact .failed f s
  · have hleft : blockOf b = none := by
      simp only [blockOf, hblock, hcaller]
    have hright : blockOf { b with block := some block } = some block := rfl
    rw [call, call, hnone, hsome, joinerOf, hnone]
    rw [Act.run_bind_ok _ (Act.run_ofExcept _ s), Act.run_bind_ok _ (Act.run_ofExcept _ s), hleft, hright]
    exact has.answers makes e b data s

/-- The helpers with two forms. -/
def forms : List (String × Form) :=
  [("consumes", .flag), ("provides", .flag), ("consumers_of_type", .lines),
    ("consumers_of_type_joined", .joined), ("providers_of_type", .lines),
    ("providers_of_type_joined", .joined), ("usesAnyOf", .flag), ("eachTypeReference", .names),
    ("hasTypeReference", .flag), ("ifValueType", .flag), ("kaplang_config", .lines),
    ("kaplang_types", .lines), ("kaplang_methods", .lines), ("kaplang_rest_methods", .lines),
    ("kaplang_has_reference", .flag), ("kaplang_render", .flag)]

theorem hasForm_ofBlock {name : String} {parameters : List String} {f : Engine → Bound → Act Value}
    (hcaller : (required parameters ++ caller).lookup "caller".toList = some (some .null))
    (h : ∀ {block : Block} {out : List Value → Session → Text}, block.Makes out →
      ∀ (e : Engine) (b : Bound) (s : Session),
        Answers form out (s.store.resolve (b.get "joiner")).displayPresent
          ((f e { b with block := none }).run s) ((f e { b with block := some block }).run s)) :
    (ofBlock name parameters f).HasForm form where
  caller := hcaller
  answers makes e b _ s := h makes e b s

theorem hasForm_ofCollection (name collection : String) :
    (ofCollection name collection).HasForm .lines :=
  hasForm_ofBlock rfl fun makes e _ _ =>
    .bind fun kind s₁ _ => answers_eachMatching makes e collection kind s₁

theorem hasForm_ofJoined (name collection : String) :
    (ofJoined name collection).HasForm .joined :=
  hasForm_ofBlock rfl fun makes e b s => by
    rw [Act.run_bind_ok _ (Act.run_textOf _ s), Act.run_bind_ok _ (Act.run_textOf _ s),
      Act.run_bind_ok _ (Act.run_textOf _ s), Act.run_bind_ok _ (Act.run_textOf _ s)]
    exact answers_eachMatching_joined makes e collection _ _ s

theorem hasForm_ofSource (name : String) (options : Entries) :
    (ofSource name options).HasForm .lines where
  caller := rfl
  answers makes e b data s :=
    answers_eachEntity makes e options (b.get "source") (b.get "namespace") (b.get "valid_types")
      data s

theorem exists_hasForm {name : String} (hform : (name, form) ∈ forms) :
    ∃ h, find? name = some h ∧ h.HasForm form := by
  simp only [forms, List.mem_cons, Prod.mk.injEq, List.not_mem_nil, or_false] at hform
  rcases hform with ⟨rfl, rfl⟩ | ⟨rfl, rfl⟩ | ⟨rfl, rfl⟩ | ⟨rfl, rfl⟩ | ⟨rfl, rfl⟩ | ⟨rfl, rfl⟩ |
    ⟨rfl, rfl⟩ | ⟨rfl, rfl⟩ | ⟨rfl, rfl⟩ | ⟨rfl, rfl⟩ | ⟨rfl, rfl⟩ | ⟨rfl, rfl⟩ | ⟨rfl, rfl⟩ |
    ⟨rfl, rfl⟩ | ⟨rfl, rfl⟩ | ⟨rfl, rfl⟩ <;> refine ⟨_, rfl, ?_⟩
  · exact hasForm_ofBlock rfl fun makes e b s =>
      .bind fun kind s₁ _ => answers_ifMatching makes e _ kind s₁
  · exact hasForm_ofBlock rfl fun makes e b s =>
      .bind fun kind s₁ _ => answers_ifMatching makes e _ kind s₁
  · exact hasForm_ofCollection _ _
  · exact hasForm_ofJoined _ _
  · exact hasForm_ofCollection _ _
  · exact hasForm_ofJoined _ _
  · exact hasForm_ofBlock rfl fun makes e b s =>
      .bind fun requests s₁ _ => answers_ifUsingAny makes e requests s₁
  · exact ⟨rfl, fun makes e b data s => .bind fun allow s₁ _ => .bind fun allowed s₂ _ =>
      .bind fun all s₃ _ => answers_eachTypeReference makes e _ all allowed s₃⟩
  · exact hasForm_ofBlock rfl fun makes e b s =>
      .bind fun name s₁ _ => answers_ifTypeReference makes _ name s₁
  · exact hasForm_ofBlock rfl fun makes _ _ s => answers_ifValueType makes _ s
  · exact hasForm_ofSource _ _
  · exact hasForm_ofSource _ _
  · exact hasForm_ofSource _ _
  · exact hasForm_ofSource _ _
  · exact hasForm_ofBlock rfl fun makes e b s =>
      .bind fun name s₁ _ => answers_ifEntityReference makes _ name s₁
  · exact hasForm_ofBlock rfl fun makes e _ s => answers_ifRendered makes _ s

/-- Every helper with two forms gives with a block what the block makes of the value that it gives
without one, and fails with a block exactly if it fails without one, for the same reason. -/
theorem call_forms_agree {name : String} (hform : (name, form) ∈ forms) (makes : block.Makes out) :
    ∃ h, find? name = some h ∧
      ∀ (e : Engine) (data : Value) (a : Arguments) (s : Session), a.LeavesBlock h.signature →
        Answers form out (h.joinerOf a s) ((call e data h a).run s)
          ((call e data h { a with block := some block }).run s) := by
  obtain ⟨h, hfind, has⟩ := exists_hasForm hform
  exact ⟨h, hfind, fun e data a s free => has.answers_call makes e data free s⟩

/-- A document with three consumers. -/
def storeContext : Value :=
  .dict [(.text "spec", .dict [(.text "consumers", .list
    [.dict [(.text "kind", .text "acme/sql:1.0")], .dict [(.text "kind", .text "acme/web")],
      .dict [(.text "kind", .text "Acme/SQL")]])])]

/-- The kind of the first item. -/
def kindBlock : Block := fun items => do
  Act.textOf ((← Act.look (items.headD .null)).get "kind")

def kindText (items : List Value) (s : Session) : Text :=
  (s.store.resolve ((s.store.look (items.headD .null)).get "kind")).displayPresent

def sqlArguments : Arguments where
  values := [.text "acme/sql", .text ", "]

theorem call_forms_agree_consumers :
    ("consumers_of_type_joined", Form.joined) ∈ forms ∧ kindBlock.Makes kindText ∧
      ∃ h, find? "consumers_of_type_joined" = some h ∧ sqlArguments.LeavesBlock h.signature ∧
        (call { context := storeContext } .null h sqlArguments).run {} =
          (.ok (.list [.dict [(.text "kind", .text "acme/sql:1.0")],
            .dict [(.text "kind", .text "Acme/SQL")]]), {}) ∧
        (call { context := storeContext } .null h
          { sqlArguments with block := some kindBlock }).run {} =
          (.ok (.markup "acme/sql:1.0, Acme/SQL"), {}) := by
  have hform : ("consumers_of_type_joined", Form.joined) ∈ forms := by decide
  have makes : kindBlock.Makes kindText := fun _ _ => rfl
  obtain ⟨h, hfind, agree⟩ := call_forms_agree hform makes
  have hrow : find? "consumers_of_type_joined" =
      some (ofJoined "consumers_of_type_joined" "consumers") := rfl
  cases Option.some.inj (hfind.symm.trans hrow)
  have free : sqlArguments.LeavesBlock
      (ofJoined "consumers_of_type_joined" "consumers").signature := ⟨rfl, rfl, by decide⟩
  have hvalue : (call { context := storeContext } .null
      (ofJoined "consumers_of_type_joined" "consumers") sqlArguments).run {} =
      (.ok (.list [.dict [(.text "kind", .text "acme/sql:1.0")],
        .dict [(.text "kind", .text "Acme/SQL")]]), {}) := rfl
  refine ⟨hform, makes, _, hfind, free, hvalue, ?_⟩
  have answers := agree { context := storeContext } .null sqlArguments {} free
  rw [hvalue] at answers
  rcases hblock : (call { context := storeContext } .null
      (ofJoined "consumers_of_type_joined" "consumers")
      { sqlArguments with block := some kindBlock }).run {} with ⟨result, s⟩
  rw [hblock] at answers
  cases answers with
  | made _ shows =>
    cases shows with
    | joined => rfl

end Helper

end Stencil
