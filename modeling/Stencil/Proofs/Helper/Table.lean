import Stencil.Helper.Table
import Stencil.Proofs.Helper.Blocks

namespace Stencil

open Act (Mirrors)

def SourceOutcome.rename (ρ : Nat → Nat) : SourceOutcome → SourceOutcome
  | failed detail => failed detail
  | refused message => refused message
  | parsed entities errors => parsed (entities.rename ρ) (errors.rename ρ)

/-- A parser that does not tell cells by their names. -/
def SourceParser.IsBlind (p : SourceParser) : Prop :=
  ∀ ρ : Nat → Nat, Function.Injective ρ → ∀ source options,
    p (source.rename ρ) (options.map (Value.renameAt ρ)) = (p source options).rename ρ

/-- A parser to which certain other names of cells make no difference. -/
def SourceParser.IsBlindTo (ρ : Nat → Nat) (p : SourceParser) : Prop :=
  ∀ source options,
    p (source.rename ρ) (options.map (Value.renameAt ρ)) = (p source options).rename ρ

variable {ρ : Nat → Nat} {b b' : Option Block}

theorem SourceParser.IsBlind.to {p : SourceParser} (h : p.IsBlind) (inj : Function.Injective ρ) :
    p.IsBlindTo ρ :=
  h ρ inj

namespace Source

theorem parserOptions_rename {options : Entries}
    (hoptions : options.map (Value.renameAt ρ) = options) (validTypes : List Value) :
    parserOptions options (validTypes.map (Value.rename ρ)) =
      (parserOptions options validTypes).map (Value.renameAt ρ) := by
  simp [parserOptions, hoptions]

theorem mirrors_parse {parser : Option SourceParser}
    (blind : ∀ p ∈ parser, SourceParser.IsBlindTo ρ p) {options : Entries}
    (hoptions : options.map (Value.renameAt ρ) = options) (source validTypes : Value) :
    Mirrors ρ (List.map (Value.rename ρ)) (parse parser source options validTypes)
      (parse parser (source.rename ρ) options (validTypes.rename ρ)) := by
  cases parser with
  | none => exact .throw _
  | some p =>
    refine (Mirrors.look validTypes).bind fun looked => ?_
    refine (Mirrors.ofExcept (looked.iteratePresent_rename ρ)).bind fun types => ?_
    have hmet := blind p rfl source (parserOptions options types)
    rw [← parserOptions_rename hoptions] at hmet
    have hseen : Value.dict (parserOptions options (types.map (Value.rename ρ))) =
        (Value.dict (parserOptions options types)).rename ρ := by
      rw [parserOptions_rename hoptions, Value.rename, Value.renameEntries_eq_map]
    simp only [hseen, hmet]
    refine (Mirrors.resolve _).bind fun seen => (Mirrors.resolve source).bind fun block => ?_
    refine Mirrors.bindSame (.modify ?_ ?_) fun _ => ?_
    · exact fun _ => ⟨rfl, rfl⟩
    · exact fun _ => ⟨rfl, rfl⟩
    rw [Value.display_rename]
    cases p source (parserOptions options types) with
    | refused message => exact (Mirrors.warn _).bindSame fun _ => .throw _
    | failed detail => exact (Mirrors.warn _).bindSame fun _ => .throw _
    | parsed entities errors =>
      refine (Mirrors.look errors).bind fun errors => ?_
      rw [Value.truthy_rename, Value.iterate_rename]
      have hentities : Mirrors ρ (List.map (Value.rename ρ))
          (do Act.ofExcept (← Act.look entities).iteratePresent)
          (do Act.ofExcept (← Act.look (entities.rename ρ)).iteratePresent) :=
        (Mirrors.look entities).bind fun looked => .ofExcept (looked.iteratePresent_rename ρ)
      split
      next =>
        refine (Mirrors.warn _).bindSame fun _ => (Mirrors.ofExcept rfl).bind fun items => ?_
        refine (Mirrors.mapMSame items Mirrors.display).bindSame fun details => ?_
        exact (Mirrors.throw (r := id) _).bindSame fun _ => hentities
      next => exact hentities

end Source

namespace Helper

theorem mirrors_metadataName (data : Value) :
    Mirrors ρ (Value.rename ρ) (metadataName data) (metadataName (data.rename ρ)) := by
  refine (Mirrors.look data).bind fun looked => ?_
  rw [Value.get_rename]
  exact (Mirrors.look _).bind fun metadata => .pure (Value.get_rename ρ "name" metadata)

theorem mirrors_baseName (namespaceName data : Value) :
    Mirrors ρ (Value.rename ρ) (baseName namespaceName data)
      (baseName (namespaceName.rename ρ) (data.rename ρ)) := by
  refine (Mirrors.truthy namespaceName).bindSame fun given => ?_
  split
  next => exact .pure rfl
  next =>
    refine (mirrors_metadataName data).bind fun name => ?_
    refine (Mirrors.truthy name).bindSame fun named => ?_
    split
    next => exact .pure rfl
    next => exact .pure rfl

theorem mirrors_eachEntity {e : Engine}
    (blind : ∀ p ∈ e.parser, SourceParser.IsBlindTo ρ p) {options : Entries}
    (hoptions : options.map (Value.renameAt ρ) = options) (h : MirroredBlock ρ b b')
    (source namespaceName validTypes data : Value) :
    Mirrors ρ (Value.rename ρ) (eachEntity e options source namespaceName validTypes data b)
      (eachEntity (e.rename ρ) options (source.rename ρ) (namespaceName.rename ρ)
        (validTypes.rename ρ) (data.rename ρ) b') := by
  refine (Mirrors.look source).bind fun looked => ?_
  rw [Value.get_rename]
  refine (Mirrors.truthy _).bindSame fun hasCode => ?_
  split
  next =>
    cases h with
    | none => exact .pure (by simp)
    | some h => exact .pure rfl
  next =>
    refine (mirrors_baseName namespaceName data).bind fun base => ?_
    refine (Mirrors.look validTypes).bind fun looked => ?_
    refine (Mirrors.ofExcept (looked.asList_rename ρ)).bind fun types => ?_
    rw [← Value.renameItems_eq_map, ← Value.rename]
    refine (Source.mirrors_parse blind hoptions _ _).bind fun entities => ?_
    refine .get fun s s' hlook _ => ?_
    dsimp only
    rw [Entity.reshape_rename ρ hlook]
    exact mirrors_blockOrItems h _ _

theorem mirrors_ifEntityReference (h : MirroredBlock ρ b b') (entity : Value) (name : Text) :
    Mirrors ρ (Value.rename ρ) (ifEntityReference entity name b)
      (ifEntityReference (entity.rename ρ) name b') := by
  refine (Mirrors.resolve entity).bind fun whole => ?_
  exact (Mirrors.ofSame (Entity.hasTypeReference_rename ρ name whole)).bindSame fun found =>
    mirrors_blockOrFlag h found

theorem mirrors_ifRendered (h : MirroredBlock ρ b b') (entity : Value) :
    Mirrors ρ (Value.rename ρ) (ifRendered entity b) (ifRendered (entity.rename ρ) b') := by
  refine (Mirrors.resolve entity).bind fun whole => ?_
  rw [Entity.isData_rename]
  dsimp only
  split
  next =>
    exact (Mirrors.ofSame (Entity.isNative_rename ρ whole)).bindSame fun native =>
      mirrors_blockOrFlag h (!native)
  next => exact mirrors_blockOrFlag h true

/-- The arguments of two calls are the same but for the names. -/
structure Arguments.Mirrored (ρ : Nat → Nat) (a a' : Arguments) : Prop where
  values : a'.values = a.values.map (Value.rename ρ)
  named : a'.named = a.named.map (Value.renameAt ρ)
  block : MirroredBlock ρ a.block a'.block

/-- What is met by the arguments of two calls is the same but for the names. -/
structure Bound.Mirrored (ρ : Nat → Nat) (x x' : Bound) : Prop where
  parameters : x'.parameters = x.parameters.map (Value.renameAt ρ)
  rest : x'.rest = x.rest.map (Value.rename ρ)
  options : x'.options = x.options.map (Value.renameAt ρ)
  block : MirroredBlock ρ x.block x'.block

theorem Bound.Mirrored.get {x x' : Bound} (h : x.Mirrored ρ x') (name : Text) :
    x'.get name = (x.get name).rename ρ := by
  rw [Bound.get, Bound.get, h.parameters, Value.lookup_map_renameAt]
  exact Value.getD_map_rename ρ _ .null

/-- The default values of the parameters refer to no cells. -/
def Signature.IsPlain (s : Signature) : Prop :=
  ∀ p ∈ s.parameters, ∀ v ∈ p.2, ∀ ρ : Nat → Nat, v.rename ρ = v

namespace Signature

theorem fill_rename (named : List (Text × Value)) (blockName : Option Text)
    {parameters : List (Text × Option Value)}
    (plain : ∀ p ∈ parameters, ∀ v ∈ p.2, v.rename ρ = v) (values : List Value) :
    fill (named.map (Value.renameAt ρ)) blockName parameters (values.map (Value.rename ρ)) =
      (fill named blockName parameters values).map fun (filled, rest) =>
        (filled.map (Value.renameAt ρ), rest.map (Value.rename ρ)) := by
  induction parameters generalizing values with
  | nil => rfl
  | cons p parameters ih =>
    obtain ⟨name, default⟩ := p
    have hrest := ih fun q hq => plain q (List.mem_cons_of_mem _ hq)
    cases values with
    | cons v values =>
      rw [List.map_cons, fill, fill, Value.lookup_map_renameAt, Option.isSome_map, hrest]
      split
      next => rfl
      next => cases fill named blockName parameters values <;> rfl
    | nil =>
      have hrest := hrest []
      rw [List.map_nil] at hrest
      rw [List.map_nil]
      cases hgiven : named.lookup name with
      | some v =>
        simp only [fill, Value.lookup_map_renameAt, hgiven, Option.map_some, hrest]
        cases fill named blockName parameters [] <;> rfl
      | none =>
        cases default with
        | none => simp only [fill, Value.lookup_map_renameAt, hgiven, Option.map_none]; rfl
        | some v =>
          have hv := plain _ List.mem_cons_self v rfl
          simp only [fill, Value.lookup_map_renameAt, hgiven, Option.map_none, hrest]
          cases fill named blockName parameters [] with
          | error f => rfl
          | ok filled =>
            simp only [Except.map, Bind.bind, Except.bind, pure, Except.pure, List.map_cons,
              Value.renameAt_mk, hv]

/-- Both calls are refused for the same reason, or both are met. -/
theorem bind_mirrored {s : Signature} (plain : s.IsPlain) {a a' : Arguments}
    (h : a.Mirrored ρ a') :
    (∃ f, s.bind a = .error f ∧ s.bind a' = .error f) ∨
      ∃ x x', s.bind a = .ok x ∧ s.bind a' = .ok x' ∧ x.Mirrored ρ x' := by
  have hfill := fill_rename a.named (a.block.map fun _ => "caller")
    (fun p hp v hv => plain p hp v hv ρ) a.values
  have hoptions : (a.named.map (Value.renameAt ρ)).filter
      (fun p => !(s.parameters.lookup p.1).isSome) =
      (a.named.filter fun p => !(s.parameters.lookup p.1).isSome).map (Value.renameAt ρ) := by
    simp [List.filter_map, Function.comp_def]
  unfold Signature.bind
  simp only [h.values, h.named, h.block.map_const, h.block.isSome_eq, hfill, hoptions]
  split
  next => exact Or.inl ⟨_, rfl, rfl⟩
  next =>
    cases fill a.named (a.block.map fun _ => "caller") s.parameters a.values with
    | error f => exact Or.inl ⟨f, rfl, rfl⟩
    | ok met =>
      simp only [Except.map, Bind.bind, Except.bind, List.isEmpty_map]
      split
      next => exact Or.inl ⟨_, rfl, rfl⟩
      next =>
        split
        next => exact Or.inl ⟨_, rfl, rfl⟩
        next => exact Or.inr ⟨_, _, rfl, rfl, rfl, rfl, rfl, h.block⟩

end Signature

/-- A helper that does not tell cells by their names. -/
structure IsBlind (h : Helper) : Prop where
  plain : h.signature.IsPlain
  mirrors : ∀ {ρ : Nat → Nat}, Function.Injective ρ → ∀ e : Engine,
    (∀ p ∈ e.parser, SourceParser.IsBlindTo ρ p) → ∀ x x', Bound.Mirrored ρ x x' → ∀ data,
      Mirrors ρ (Value.rename ρ) (h.run e x data) (h.run (e.rename ρ) x' (data.rename ρ))

theorem isPlain_of_forall {s : Signature}
    (h : ∀ p ∈ s.parameters, ∀ v ∈ p.2, v = .null ∨ (∃ b, v = .bool b) ∨ ∃ t, v = .text t) :
    s.IsPlain := by
  intro p hp v hv ρ
  rcases h p hp v hv with rfl | ⟨b, rfl⟩ | ⟨t, rfl⟩ <;> simp

theorem isBlind_ofText (name : String) {f : Engine → Text → Text}
    (hf : ∀ (ρ : Nat → Nat) e t, f (e.rename ρ) t = f e t) : (ofText name f).IsBlind where
  plain := isPlain_of_forall (by simp [ofText, required])
  mirrors _ e _ x x' h _ := by
    simp only [ofText, h.get, hf]
    exact (Mirrors.textOf _).bindSame fun t => .pure rfl

theorem plain_rename (v : Value) : plain (v.rename ρ) = (plain v).rename ρ := by
  rw [plain, plain, Value.isMissing_rename]
  split
  next => rfl
  next => rfl

theorem isBlind_ofType (name : String) {f : Language → Value → Text}
    (hf : ∀ (ρ : Nat → Nat) l v, f l (v.rename ρ) = f l v) : (ofType name f).IsBlind where
  plain := isPlain_of_forall (by simp [ofType, required])
  mirrors _ e _ x x' h _ := by
    simp only [ofType, h.get]
    refine (Mirrors.resolve _).bind fun whole => .pure ?_
    rw [plain_rename, hf]
    rfl

theorem isBlind_ofProperty (name : String) {f : Language → Value → Text → Text}
    (hf : ∀ (ρ : Nat → Nat) l v t, f l (v.rename ρ) t = f l v t) : (ofProperty name f).IsBlind where
  plain := isPlain_of_forall (by simp [ofProperty, required])
  mirrors _ e _ x x' h _ := by
    simp only [ofProperty, h.get]
    refine (Mirrors.resolve _).bind fun whole => (Mirrors.textOf _).bindSame fun t => .pure ?_
    rw [plain_rename, hf]
    rfl

theorem isBlind_ofBlock (name : String) (parameters : List String)
    {f : Engine → Bound → Act Value}
    (hf : ∀ {ρ : Nat → Nat}, Function.Injective ρ → ∀ e x x', Bound.Mirrored ρ x x' →
      Mirrors ρ (Value.rename ρ) (f e x) (f (e.rename ρ) x')) :
    (ofBlock name parameters f).IsBlind where
  plain := isPlain_of_forall fun p hp v hv => by
    rcases List.mem_append.mp hp with hrequired | hcaller
    · obtain ⟨name, -, rfl⟩ := List.mem_map.mp hrequired
      exact absurd hv (by simp)
    · rw [List.mem_singleton.mp hcaller] at hv
      exact Or.inl (Option.some.inj hv).symm
  mirrors inj e _ x x' h _ := hf inj e x x' h

theorem isBlind_ofCollection (name collection : String) :
    (ofCollection name collection).IsBlind := by
  refine isBlind_ofBlock name _ fun inj e x x' h => ?_
  simp only [h.get]
  exact (Mirrors.textOf _).bindSame fun kind => mirrors_eachMatching e h.block _ kind _

theorem isBlind_ofJoined (name collection : String) : (ofJoined name collection).IsBlind := by
  refine isBlind_ofBlock name _ fun inj e x x' h => ?_
  simp only [h.get]
  exact (Mirrors.textOf _).bindSame fun kind => (Mirrors.textOf _).bindSame fun joiner =>
    mirrors_eachMatching e h.block _ kind joiner

theorem isBlind_ofSource (name : String) {options : Entries}
    (hoptions : ∀ ρ : Nat → Nat, options.map (Value.renameAt ρ) = options) :
    (ofSource name options).IsBlind where
  plain := isPlain_of_forall (by simp [ofSource, required, caller, optional])
  mirrors _ e blind x x' h data := by
    simp only [ofSource, h.get]
    exact mirrors_eachEntity blind (hoptions _) h.block _ _ _ data

theorem mirrors_requestTexts (v : Value) :
    Mirrors ρ id (requestTexts v) (requestTexts (v.rename ρ)) := by
  refine (Mirrors.look v).bind fun looked => ?_
  refine (Mirrors.ofExcept (looked.asList_rename ρ)).bind fun vs => ?_
  exact .mapMSame vs Mirrors.textOf

theorem json_rename (v : Value) : json (v.rename ρ) = json v := by
  rw [json, json, plain_rename]
  exact Json.write_rename ρ _ _ _

theorem jsonPretty_rename (v : Value) : jsonPretty (v.rename ρ) = jsonPretty v := by
  rw [jsonPretty, jsonPretty, plain_rename]
  exact Json.write_rename ρ _ _ _

theorem firstOf_rename {truthy truthy' : Value → Bool} (h : ∀ v, truthy' (v.rename ρ) = truthy v)
    (vs : List Value) :
    firstOf truthy' (vs.map (Value.rename ρ)) = (firstOf truthy vs).rename ρ := by
  rw [firstOf, firstOf, List.find?_map, ← Value.getD_map_rename, Value.rename]
  simp only [Function.comp_def, h]

theorem isBlind_of_mem_textHelpers {h : Helper} (hmem : h ∈ textHelpers) : h.IsBlind := by
  rw [textHelpers, List.mem_append] at hmem
  rcases hmem with hcasing | hmem
  · obtain ⟨⟨name, f⟩, -, rfl⟩ := List.mem_map.mp hcasing
    exact isBlind_ofText _ fun _ _ _ => rfl
  · simp only [List.mem_cons, List.not_mem_nil, or_false] at hmem
    rcases hmem with rfl | rfl | rfl | rfl | rfl | rfl | rfl | rfl | rfl
    all_goals refine ⟨isPlain_of_forall (by simp [required, optional, caller]), ?_⟩
    all_goals intro ρ inj e _ x x' h data; simp only [h.get]
    · rw [Value.isMissing_rename]
      refine .pure ?_
      split <;> rfl
    · exact (Mirrors.resolve _).bind fun whole =>
        (Mirrors.ofSame (json_rename whole)).bindSame fun t => .pure rfl
    · exact (Mirrors.resolve _).bind fun whole =>
        (Mirrors.ofSame (congrArg (Except.map Json.literal) (json_rename whole))).bindSame
          fun t => .pure rfl
    · exact (Mirrors.resolve _).bind fun whole =>
        (Mirrors.ofSame (jsonPretty_rename whole)).bindSame fun t => .pure rfl
    · exact (Mirrors.truthy _).bindSame fun opening => .pure rfl
    · exact (Mirrors.textOf _).bindSame fun s => (Mirrors.textOf _).bindSame fun t => .pure rfl
    · rw [h.rest]
      exact .pure (by simp)
    · rw [h.rest]
      refine .get fun s s' hlook _ => .pure (firstOf_rename (fun v => ?_) x.rest)
      rw [hlook, Value.truthy_rename]
    · rw [h.options, Value.lookup_map_renameAt]
      rw [show Value.null = Value.null.rename ρ from rfl, Value.getD_map_rename]
      refine (Mirrors.resolve _).bind fun type => ?_
      refine (mirrors_renderBlock h.block []).bindSame fun inner => ?_
      refine (Mirrors.resolve _).bind fun value => .pure ?_
      rw [Value.same_rename inj]
      rfl

theorem isBlind_of_mem_kindHelpers {h : Helper} (hmem : h ∈ kindHelpers) : h.IsBlind := by
  simp only [kindHelpers, List.mem_cons, List.not_mem_nil, or_false] at hmem
  rcases hmem with rfl | rfl | rfl | rfl | rfl | rfl | rfl
  · refine isBlind_ofBlock _ _ fun inj e x x' h => ?_
    simp only [h.get]
    exact (Mirrors.textOf _).bindSame fun kind => mirrors_ifMatching e h.block _ kind
  · refine isBlind_ofBlock _ _ fun inj e x x' h => ?_
    simp only [h.get]
    exact (Mirrors.textOf _).bindSame fun kind => mirrors_ifMatching e h.block _ kind
  · exact isBlind_ofCollection _ _
  · exact isBlind_ofJoined _ _
  · exact isBlind_ofCollection _ _
  · exact isBlind_ofJoined _ _
  · refine isBlind_ofBlock _ _ fun inj e x x' h => ?_
    simp only [h.get]
    exact (mirrors_requestTexts _).bindSame fun requests => mirrors_ifUsingAny e h.block requests

theorem isBlind_of_mem_formattingHelpers {h : Helper} (hmem : h ∈ formattingHelpers) :
    h.IsBlind := by
  simp only [formattingHelpers, List.mem_cons, List.not_mem_nil, or_false] at hmem
  rcases hmem with rfl | rfl | rfl | rfl | rfl | rfl | rfl | rfl | rfl | rfl
  · exact isBlind_ofType _ fun ρ l v => Language.type_rename ρ l v
  · exact isBlind_ofText _ fun _ _ _ => rfl
  · exact isBlind_ofText _ fun _ _ _ => rfl
  · exact isBlind_ofText _ fun _ _ _ => rfl
  · exact isBlind_ofType _ fun ρ l v => Language.variableName_rename ρ l v
  · exact isBlind_ofText _ fun _ _ _ => rfl
  · exact isBlind_ofText _ fun _ _ _ => rfl
  · exact isBlind_ofType _ fun ρ l v => Language.returnType_rename ρ l v
  · exact isBlind_ofProperty _ fun ρ l v t => Language.getter_rename ρ l v t
  · exact isBlind_ofProperty _ fun _ _ _ _ => rfl

theorem isBlind_of_mem_structureHelpers {h : Helper} (hmem : h ∈ structureHelpers) :
    h.IsBlind := by
  simp only [structureHelpers, List.mem_cons, List.not_mem_nil, or_false] at hmem
  rcases hmem with rfl | rfl | rfl | rfl | rfl
  all_goals refine isBlind_ofBlock _ _ fun inj e x x' h => ?_
  all_goals simp only [h.get]
  · exact mirrors_eachProperty h.block _
  · exact mirrors_eachArgument h.block _ _
  · exact mirrors_eachMethod h.block _ _
  · exact mirrors_switch h.block _
  · exact mirrors_case h.block _

theorem isBlind_of_mem_referenceHelpers {h : Helper} (hmem : h ∈ referenceHelpers) :
    h.IsBlind := by
  simp only [referenceHelpers, List.mem_cons, List.not_mem_nil, or_false] at hmem
  rcases hmem with rfl | rfl | rfl
  · refine ⟨isPlain_of_forall (by simp [required, optional, caller]), ?_⟩
    intro ρ inj e _ x x' h data
    simp only [h.get]
    refine (Mirrors.resolve _).bind fun allow => ?_
    refine (Mirrors.ofExcept (allow.asList_rename ρ)).bind fun allowed => ?_
    exact (Mirrors.truthy _).bindSame fun all =>
      mirrors_eachTypeReference e h.block _ all allowed
  · refine isBlind_ofBlock _ _ fun inj e x x' h => ?_
    simp only [h.get]
    exact (Mirrors.textOf _).bindSame fun name => mirrors_ifTypeReference h.block _ name
  · refine isBlind_ofBlock _ _ fun inj e x x' h => ?_
    simp only [h.get]
    exact mirrors_ifValueType h.block _

theorem isBlind_of_mem_sourceHelpers {h : Helper} (hmem : h ∈ sourceHelpers) : h.IsBlind := by
  simp only [sourceHelpers, List.mem_cons, List.not_mem_nil, or_false] at hmem
  rcases hmem with rfl | rfl | rfl | rfl | rfl | rfl | rfl
  · exact isBlind_ofSource _ fun _ => by simp [Source.configOptions]
  · exact isBlind_ofSource _ fun _ => by simp [Source.typeOptions]
  · exact isBlind_ofSource _ fun _ => by simp [Source.methodOptions]
  · exact isBlind_ofSource _ fun _ => by simp [Source.methodOptions]
  · refine isBlind_ofBlock _ _ fun inj e x x' h => ?_
    simp only [h.get]
    exact (Mirrors.textOf _).bindSame fun name => mirrors_ifEntityReference h.block _ name
  · refine isBlind_ofBlock _ _ fun inj e x x' h => ?_
    simp only [h.get]
    exact mirrors_ifRendered h.block _
  · refine ⟨isPlain_of_forall (by simp [required]), ?_⟩
    intro ρ inj e _ x x' h data
    simp only [h.get]
    exact (Mirrors.resolve _).bind fun whole =>
      (Mirrors.ofSame (Entity.controllerName_rename ρ whole)).bindSame fun t => .pure rfl

theorem isBlind_of_mem_all {h : Helper} (hmem : h ∈ all) : h.IsBlind := by
  simp only [all, List.mem_append] at hmem
  rcases hmem with ((((htext | hkind) | hformatting) | hstructure) | hreference) | hsource
  · exact isBlind_of_mem_textHelpers htext
  · exact isBlind_of_mem_kindHelpers hkind
  · exact isBlind_of_mem_formattingHelpers hformatting
  · exact isBlind_of_mem_structureHelpers hstructure
  · exact isBlind_of_mem_referenceHelpers hreference
  · exact isBlind_of_mem_sourceHelpers hsource

theorem mirrored_blockOf {x x' : Bound} (h : x.Mirrored ρ x') :
    MirroredBlock ρ (blockOf x) (blockOf x') := by
  have hcaller := h.get "caller"
  obtain ⟨parameters, rest, options, block⟩ := x
  obtain ⟨parameters', rest', options', block'⟩ := x'
  have hblock : MirroredBlock ρ block block' := h.block
  cases hblock with
  | some hblock => exact .some hblock
  | none =>
    simp only [blockOf, hcaller]
    cases Bound.get ⟨parameters, rest, options, none⟩ "caller" with
    | null => exact .none
    | undefined => exact .some fun _ => .fail _
    | _ => exact .some fun _ => .fail _

theorem mirrors_call (inj : Function.Injective ρ) {e : Engine}
    (blind : ∀ p ∈ e.parser, SourceParser.IsBlindTo ρ p) {h : Helper} (hmem : h ∈ all)
    {a a' : Arguments} (ha : a.Mirrored ρ a') (data : Value) :
    Mirrors ρ (Value.rename ρ) (call e data h a) (call (e.rename ρ) (data.rename ρ) h a') := by
  obtain ⟨plain, mirrors⟩ := isBlind_of_mem_all hmem
  rcases Signature.bind_mirrored plain ha with ⟨f, hf, hf'⟩ | ⟨x, x', hx, hx', hmet⟩
  · rw [call, call, hf, hf']
    exact .throw f
  · rw [call, call, hx, hx']
    refine mirrors inj e blind _ _ ?_ data
    exact ⟨hmet.parameters, hmet.rest, hmet.options, mirrored_blockOf hmet⟩

end Helper

end Stencil
